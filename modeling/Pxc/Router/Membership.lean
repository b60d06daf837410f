import Pxc.Router.Instructions
import Pxc.Router.Lifetime

namespace Pxc
namespace Router

open General

/-!
# Users and their zones

Which zone a user is in is kept twice: in the user's object, which names a
zone, and in the zones' tables.  The two should agree, a user being in the
table of a zone exactly when it names that zone and the zone exists.

They come apart in three ways.  Placing a user puts it into the table of the
new zone and takes it out of the old one, so a user that is placed where it is
already leaves every table; and the old zone is used without a check, so a
user without one cannot be placed at all.  A new user names zone -1, and a new
zone may have an id that users still name; neither enters a table.
-/

variable {router next start : Router} {idUser idZone token : Int} {user : User}

/-- The user is in the table of the zone. -/
def InTable (router : Router) (idUser idZone : Int) : Prop :=
  ∃ zone, router.findZone idZone = some zone ∧ idUser ∈ zone.mUsers

/-- The user's object names the zone. -/
def Names (router : Router) (idUser idZone : Int) : Prop :=
  ∃ user, router.findUser idUser = some user ∧ user.mZone = idZone

/-- A user is in the table of a zone exactly when it names the zone and the
zone exists. -/
def Membership (router : Router) : Prop :=
  ∀ idUser idZone, router.InTable idUser idZone ↔
    router.Names idUser idZone ∧ idZone ∈ router.mZones

/-- The user is in the table of the zone, and in no other. -/
def InOnly (router : Router) (idUser idZone : Int) : Prop :=
  router.InTable idUser idZone ∧ ∀ other, router.InTable idUser other → other = idZone

theorem not_names_of_empty (none : router.mUsers = ∅) (idUser idZone : Int) :
    ¬ router.Names idUser idZone := by
  rintro ⟨user, found, _⟩
  rw [findUser, find, none, Std.ExtTreeMap.getElem?_empty] at found
  cases found

theorem Names.unique {first second : Int} (namesFirst : router.Names idUser first)
    (namesSecond : router.Names idUser second) : first = second := by
  rcases namesFirst with ⟨user, found, named⟩
  rcases namesSecond with ⟨user', found', named'⟩
  have same := Option.mem_unique found found'
  subst same
  exact named.symm.trans named'

/-- So every user is in at most one table. -/
theorem Membership.once (membership : Membership router) {first second : Int}
    (inFirst : router.InTable idUser first) (inSecond : router.InTable idUser second) :
    first = second :=
  ((membership idUser first).mp inFirst).1.unique ((membership idUser second).mp inSecond).1

/-- A call of one of the four operations, or the message that enrols a user
and places it. -/
inductive Placement where
  | addUser (idUser token : Int)
  | addZone (idZone : Int)
  | delZone (idZone : Int)
  | setUserToZone (idUser idZone : Int)
  | addUserRcvd (mIdUser mToken mZoneId : Int)

/-- The state after a call, or after the message was executed. -/
def place (router : Router) : Placement → Option Router
  | .addUser idUser token => router.addUser idUser token
  | .addZone idZone => router.addZone idZone
  | .delZone idZone => router.delZone idZone
  | .setUserToZone idUser idZone => router.setUserToZone idUser idZone
  | .addUserRcvd mIdUser mToken mZoneId => AddUserRcvd.exec mIdUser mToken mZoneId router

/-- The user a call places, and the zone it is placed in. -/
def Placement.target : Placement → Option (Int × Int)
  | .setUserToZone idUser idZone => some (idUser, idZone)
  | .addUserRcvd mIdUser _ mZoneId => some (mIdUser, mZoneId)
  | _ => none

/-- What every call should do: keep users and tables in agreement, and place
a user that is there in a zone that is there. -/
def KeepsMembership (_before : List Placement) (router : Router) (event : Placement) : Prop :=
  ∃ next, place router event = some next ∧ Membership next ∧
    ∀ idUser idZone, event.target = some (idUser, idZone) → idUser ∈ next.mUsers →
      idZone ∈ next.mZones → next.InOnly idUser idZone

/-- The zone that a user names, which is -1 for a user to be created. -/
def namedBy (router : Router) (idUser : Int) : Int :=
  ((router.findUser idUser).map User.mZone).getD (-1)

/-- The user can be placed in the zone: it names an existing zone, and not
the one it is to be placed in. -/
def Placeable (router : Router) (idUser idZone : Int) : Prop :=
  router.namedBy idUser ∈ router.mZones ∧ router.namedBy idUser ≠ idZone

instance (router : Router) (idUser idZone : Int) : Decidable (router.Placeable idUser idZone) :=
  inferInstanceAs (Decidable (_ ∧ _))

/-- The calls that do so: users and zones are placed and created only where
the tables can follow. -/
def WellPlaced (_before : List Placement) (router : Router) : Placement → Prop
  | .addUser idUser _ => idUser ∈ router.mUsers ∨ (-1 : Int) ∉ router.mZones
  | .addZone idZone => idZone ∈ router.mZones ∨ ∀ idUser, ¬ router.Names idUser idZone
  | .delZone _ => True
  | .setUserToZone idUser idZone => idUser ∈ router.mUsers → idZone ∈ router.mZones →
      router.Placeable idUser idZone
  | .addUserRcvd mIdUser _ mZoneId =>
      if mZoneId ∈ router.mZones then router.Placeable mIdUser mZoneId
      else mIdUser ∈ router.mUsers ∨ (-1 : Int) ∉ router.mZones

/-- The invariant: everything is alive, and users and tables agree. -/
structure Placed (router : Router) : Prop extends Sound router where
  membership : Membership router

theorem Placed.empty : Placed Router.empty where
  toSound := Sound.empty
  membership := by
    intro idUser idZone
    constructor
    · intro inTable
      rcases inTable with ⟨zone, found, _⟩
      rw [findZone_empty] at found
      cases found
    · intro named
      exact absurd named.2 Std.ExtTreeMap.not_mem_empty

/-! ## Creating users and zones -/

theorem mem_mZones_iff (owned : Owned router) :
    idZone ∈ router.mZones ↔ ∃ zone, router.findZone idZone = some zone :=
  owned.zones.mem_iff

theorem mem_mUsers_iff (owns : OwnsUsers router) :
    idUser ∈ router.mUsers ↔ ∃ user, router.findUser idUser = some user :=
  owns.mem_iff

theorem Sound.mem_of_inTable (sound : Sound router) (inTable : router.InTable idUser idZone) :
    idUser ∈ router.mUsers := by
  rcases inTable with ⟨zone, found, member⟩
  rcases FiniteMap.exists_of_mem member with ⟨pointer, entry⟩
  exact FiniteMap.mem_of_getElem? (sound.members idZone zone found idUser pointer entry)

/-- The token of a user has no part in where it is. -/
theorem addUser_known_names (owns : OwnsUsers router) (known : idUser ∈ router.mUsers)
    (token : Int) :
    ∃ users, router.addUser idUser token = some { router with users } ∧
      ∀ other idZone, Names { router with users } other idZone ↔ router.Names other idZone := by
  rcases (mem_mUsers_iff owns).mp known with ⟨user, found⟩
  rcases addUser_known owns found token with ⟨users, added, _, finds⟩
  refine ⟨users, added, ?_⟩
  intro other idZone
  unfold Names
  rw [show findUser { router with users } other = _ from finds other]
  by_cases same : idUser = other
  · subst same
    simp only [if_true, found, Option.some.injEq, exists_eq_left']
    exact Iff.rfl
  · rw [if_neg same]

/-- A new user names zone -1, and is in no table. -/
theorem addUser_new_names (owns : OwnsUsers router) (unknown : idUser ∉ router.mUsers)
    (token : Int) :
    ∃ next, router.addUser idUser token = some next ∧
      (∀ other idZone, next.InTable other idZone ↔ router.InTable other idZone) ∧
      next.mZones = router.mZones ∧ (∀ other, other ∈ next.mUsers ↔
        idUser = other ∨ other ∈ router.mUsers) ∧
      ∀ other idZone, next.Names other idZone ↔
        if idUser = other then idZone = -1 else router.Names other idZone := by
  rcases addUser_new owns (FiniteMap.getElem?_eq_none_iff.mpr unknown) token with
    ⟨users, added, _, finds⟩
  refine ⟨_, added, fun _ _ => Iff.rfl, rfl, ?_, ?_⟩
  · intro other
    rw [Std.ExtTreeMap.mem_insert, Std.compare_eq_iff_eq]
  · intro other idZone
    unfold Names
    simp only [findUser, finds]
    by_cases same : idUser = other
    · simp only [if_pos same, Option.some.injEq, exists_eq_left', User.create]
      exact eq_comm
    · simp only [if_neg same]

theorem namedBy_of_names {named : Int} (names : router.Names idUser named) :
    router.namedBy idUser = named := by
  rcases names with ⟨user, found, same⟩
  rw [namedBy, found, Option.map_some, Option.getD_some, same]

/-- Creating a user keeps the agreement when there is no zone -1. -/
theorem Placed.addUser_iff (placed : Placed router) (idUser token : Int) :
    ∃ next, router.addUser idUser token = some next ∧ Sound next ∧
      next.mZones = router.mZones ∧
      (Membership next ↔ idUser ∈ router.mUsers ∨ (-1 : Int) ∉ router.mZones) := by
  rcases placed.toSound.addUser idUser token with ⟨next, added, sound⟩
  by_cases known : idUser ∈ router.mUsers
  · rcases addUser_known_names placed.users known token with ⟨users, added', names⟩
    have same := Option.mem_unique added' added
    subst same
    refine ⟨_, added, sound, rfl, ⟨fun _ => .inl known, fun _ => ?_⟩⟩
    intro other idZone
    rw [names]
    exact placed.membership other idZone
  · rcases addUser_new_names placed.users known token with
      ⟨next', added', tables, sameZones, _, names⟩
    have same := Option.mem_unique added' added
    subst same
    refine ⟨next', added, sound, sameZones, ?_⟩
    constructor
    · intro membership
      apply Or.inr
      intro zoneKnown
      have named := (names idUser (-1)).mpr ((if_pos rfl).mpr rfl)
      have inTable := (membership idUser (-1)).mpr ⟨named, sameZones ▸ zoneKnown⟩
      exact known (placed.toSound.mem_of_inTable ((tables idUser (-1)).mp inTable))
    · intro noZone
      rcases noZone with contradiction | noZone
      · exact absurd contradiction known
      · intro other idZone
        rw [tables, names, sameZones, placed.membership other idZone]
        by_cases same : idUser = other
        · subst same
          rw [if_pos rfl]
          constructor
          · intro both
            rcases both.1 with ⟨user, found, _⟩
            exact absurd ((mem_mUsers_iff placed.users).mpr ⟨user, found⟩) known
          · intro both
            exact absurd (both.1 ▸ both.2) noZone
        · rw [if_neg same]

/-- Creating a zone keeps the agreement when no user names it. -/
theorem Placed.addZone_iff (placed : Placed router) (idZone : Int) :
    ∃ next, router.addZone idZone = some next ∧ Sound next ∧
      (Membership next ↔ idZone ∈ router.mZones ∨ ∀ idUser, ¬ router.Names idUser idZone) := by
  rcases placed.toSound.addZone idZone with ⟨next, added, sound⟩
  cases entry : router.mZones[idZone]? with
  | some pointer =>
      have same := Option.mem_unique (addZone_known entry) added
      subst same
      exact ⟨router, added, sound, fun _ => .inl (FiniteMap.mem_of_getElem? entry),
        fun _ => placed.membership⟩
  | none =>
      rcases placed.addZone_new entry with ⟨zones, added', _, finds⟩
      have same := Option.mem_unique added' added
      subst same
      have absent : idZone ∉ router.mZones := FiniteMap.getElem?_eq_none_iff.mp entry
      have tables : ∀ other idZone', InTable { router with
          zones, mZones := router.mZones.insert idZone router.zones.next } other idZone' ↔
            router.InTable other idZone' := by
        intro other idZone'
        unfold InTable
        rw [show findZone { router with
          zones, mZones := router.mZones.insert idZone router.zones.next } idZone' = _ from
            finds idZone']
        by_cases same : idZone = idZone'
        · subst same
          rw [if_pos rfl]
          constructor
          · intro created
            rcases created with ⟨zone, found, member⟩
            have same := Option.some.inj found
            subst same
            exact absurd member Std.ExtTreeMap.not_mem_empty
          · intro inTable
            rcases inTable with ⟨zone, found, _⟩
            exact absurd ((mem_mZones_iff placed.toOwned).mpr ⟨zone, found⟩) absent
        · rw [if_neg same]
      have known : ∀ idZone', idZone' ∈ router.mZones.insert idZone router.zones.next ↔
          idZone = idZone' ∨ idZone' ∈ router.mZones := by
        intro idZone'
        rw [Std.ExtTreeMap.mem_insert, Std.compare_eq_iff_eq]
      refine ⟨_, added, sound, ?_⟩
      constructor
      · intro membership
        apply Or.inr
        intro idUser names
        have inTable := (membership idUser idZone).mpr ⟨names, (known idZone).mpr (.inl rfl)⟩
        exact absent ((placed.membership idUser idZone).mp ((tables idUser idZone).mp inTable)).2
      · intro unnamed
        rcases unnamed with contradiction | unnamed
        · exact absurd contradiction absent
        · intro other idZone'
          rw [tables, placed.membership other idZone']
          constructor
          · intro both
            exact ⟨both.1, (known idZone').mpr (.inr both.2)⟩
          · intro both
            rcases (known idZone').mp both.2 with same | old
            · subst same
              exact absurd both.1 (unnamed other)
            · exact ⟨both.1, old⟩

/-- Deleting a zone always keeps the agreement. -/
theorem Placed.delZone_membership (placed : Placed router) (idZone : Int) :
    ∃ next, router.delZone idZone = some next ∧ Sound next ∧ Membership next := by
  rcases placed.toSound.delZone idZone with ⟨next, deleted, sound⟩
  refine ⟨next, deleted, sound, ?_⟩
  cases found : router.findZone idZone with
  | none =>
      rw [findZone, placed.zones.find_eq_none_iff] at found
      have same := Option.mem_unique (delZone_unknown found) deleted
      exact same ▸ placed.membership
  | some zone =>
      rcases placed.delZone_known found with ⟨servers, zones, deleted', _, _, finds⟩
      have same := Option.mem_unique deleted' deleted
      subst same
      intro other idZone'
      have member : idZone' ∈ router.mZones.erase idZone ↔
          idZone ≠ idZone' ∧ idZone' ∈ router.mZones := FiniteMap.mem_erase_iff
      have before := placed.membership other idZone'
      change (∃ zone, find (router.mZones.erase idZone) zones idZone' = some zone ∧
        other ∈ zone.mUsers) ↔ router.Names other idZone' ∧ idZone' ∈ router.mZones.erase idZone
      rw [finds, member]
      by_cases same : idZone = idZone'
      · subst same
        simp only [if_true, reduceCtorEq, false_and, exists_false, ne_eq, not_true_eq_false,
          and_false]
      · rw [if_neg same]
        constructor
        · intro inTable
          exact ⟨(before.mp inTable).1, same, (before.mp inTable).2⟩
        · intro both
          exact before.mpr ⟨both.1, both.2.2⟩

/-! ## Placing a user -/

/-- Users and tables agree, but for one user, who is in no table of a zone it
does not name. -/
structure AlmostPlaced (idUser : Int) (router : Router) : Prop extends Sound router where
  others : ∀ other idZone, idUser ≠ other → (router.InTable other idZone ↔
    router.Names other idZone ∧ idZone ∈ router.mZones)
  own : ∀ idZone, router.InTable idUser idZone → router.Names idUser idZone

theorem Placed.almostPlaced (placed : Placed router) (idUser : Int) :
    AlmostPlaced idUser router where
  toSound := placed.toSound
  others := fun other idZone _ => placed.membership other idZone
  own := fun idZone inTable => ((placed.membership idUser idZone).mp inTable).1

theorem names_moved (zones : Heap Zone) {users : Heap User}
    (finds : ∀ other, find router.mUsers users other =
      if idUser = other then some (user.zone idZone) else router.findUser other)
    (other idZone' : Int) :
    Names { router with zones, users } other idZone' ↔
      if idUser = other then idZone' = idZone else router.Names other idZone' := by
  unfold Names
  rw [show findUser { router with zones, users } other = _ from finds other]
  by_cases same : idUser = other
  · simp only [if_pos same, Option.some.injEq, exists_eq_left', User.zone]
    exact eq_comm
  · rw [if_neg same, if_neg same]

namespace AlmostPlaced

/-- The tables of the zones when a user has entered one and left another. -/
theorem inTable_moved (almost : AlmostPlaced idUser router)
    (found : router.findUser idUser = some user) {zone oldZone : Zone}
    (foundZone : router.findZone idZone = some zone)
    (foundOld : router.findZone user.mZone = some oldZone) (elsewhere : user.mZone ≠ idZone)
    {zones : Heap Zone} (users : Heap User) {address : Address}
    (finds : ∀ other, find router.mZones zones other =
      if user.mZone = other then some (oldZone.delUser idUser)
      else if idZone = other then some (zone.addUser idUser address)
      else router.findZone other)
    (other idZone' : Int) :
    InTable { router with zones, users } other idZone' ↔
      if idUser = other then idZone' = idZone else router.InTable other idZone' := by
  unfold InTable
  rw [show findZone { router with zones, users } idZone' = _ from finds idZone']
  by_cases left : user.mZone = idZone'
  · subst left
    simp only [if_true, Option.some.injEq, exists_eq_left', Zone.delUser,
      FiniteMap.mem_erase_iff, foundOld]
    by_cases same : idUser = other
    · simp only [same, ne_eq, not_true_eq_false, false_and, if_true, false_iff]
      exact elsewhere
    · simp only [ne_eq, same, not_false_eq_true, true_and, if_false]
  · by_cases entered : idZone = idZone'
    · subst entered
      simp only [if_neg left, if_true, Option.some.injEq, exists_eq_left', Zone.addUser,
        FiniteMap.mem_insertIfNew_iff, foundZone]
      by_cases same : idUser = other
      · simp only [same, true_or, if_true]
      · simp only [same, false_or, if_false]
    · rw [if_neg left, if_neg entered]
      by_cases same : idUser = other
      · subst same
        rw [if_pos rfl]
        constructor
        · intro inTable
          have old := (almost.own idZone' inTable).unique ⟨user, found, rfl⟩
          exact absurd old.symm left
        · intro equal
          exact absurd equal.symm entered
      · rw [if_neg same]

/-- A user that can be placed ends in its new zone and in no other. -/
theorem setUserToZone_placeable (almost : AlmostPlaced idUser router)
    (known : idUser ∈ router.mUsers) (zoneKnown : idZone ∈ router.mZones)
    (placeable : router.Placeable idUser idZone) :
    ∃ next, router.setUserToZone idUser idZone = some next ∧ Placed next ∧
      next.InOnly idUser idZone := by
  rcases (mem_mUsers_iff almost.users).mp known with ⟨user, found⟩
  have named : router.namedBy idUser = user.mZone := namedBy_of_names ⟨user, found, rfl⟩
  rw [Placeable, named] at placeable
  rcases (mem_mZones_iff almost.toOwned).mp zoneKnown with ⟨zone, foundZone⟩
  rcases (mem_mZones_iff almost.toOwned).mp placeable.1 with ⟨oldZone, foundOld⟩
  rcases almost.toSound.setUserToZone found foundZone foundOld with ⟨next, moved, sound⟩
  rcases setUserToZone_known almost.toOwned almost.users found foundZone foundOld with
    ⟨address, zones, users, _, moved', _, _, findsZone, finds⟩
  have same := Option.mem_unique moved' moved
  subst same
  have elsewhere : idZone ≠ user.mZone := fun equal => placeable.2 equal.symm
  rw [if_neg elsewhere] at findsZone
  have names := names_moved zones finds
  have tables := almost.inTable_moved found foundZone foundOld placeable.2 users findsZone
  have own := fun idZone' => (tables idUser idZone').trans (iff_of_eq (if_pos rfl))
  refine ⟨_, moved, ⟨sound, ?_⟩, (own idZone).mpr rfl, fun other => (own other).mp⟩
  intro other idZone'
  rw [tables, names]
  by_cases same : idUser = other
  · rw [if_pos same, if_pos same]
    constructor
    · intro equal
      exact ⟨equal, equal ▸ zoneKnown⟩
    · intro both
      exact both.1
  · rw [if_neg same, if_neg same]
    exact almost.others other idZone' same

/-- Any other user is not in its new zone afterwards, or there is no
afterwards. -/
theorem not_inTable_of_not_placeable (almost : AlmostPlaced idUser router)
    (known : idUser ∈ router.mUsers) (zoneKnown : idZone ∈ router.mZones)
    (stuck : ¬ router.Placeable idUser idZone)
    (moved : router.setUserToZone idUser idZone = some next) :
    ¬ next.InTable idUser idZone := by
  rcases (mem_mUsers_iff almost.users).mp known with ⟨user, found⟩
  have named : router.namedBy idUser = user.mZone := namedBy_of_names ⟨user, found, rfl⟩
  rw [Placeable, named] at stuck
  rcases (mem_mZones_iff almost.toOwned).mp zoneKnown with ⟨zone, foundZone⟩
  by_cases oldKnown : user.mZone ∈ router.mZones
  · have stays : user.mZone = idZone := by
      apply Classical.byContradiction
      intro leaves
      exact stuck ⟨oldKnown, leaves⟩
    subst stays
    rcases setUserToZone_known almost.toOwned almost.users found foundZone foundZone with
      ⟨address, zones, users, _, moved', _, _, findsZone, _⟩
    have same := Option.mem_unique moved' moved
    subst same
    intro inTable
    rcases inTable with ⟨left, foundLeft, member⟩
    rw [findZone, findsZone, if_pos rfl, Option.some.injEq] at foundLeft
    subst foundLeft
    exact absurd rfl (FiniteMap.mem_erase_iff.mp member).1
  · rcases FiniteMap.exists_of_mem zoneKnown with ⟨pointer, entry⟩
    have undefined := setUserToZone_lost almost.toOwned found entry
      (FiniteMap.getElem?_eq_none_iff.mpr oldKnown)
    rw [undefined] at moved
    cases moved

end AlmostPlaced

/-- In order to be placed, a user has to be placeable. -/
theorem AlmostPlaced.places_iff (almost : AlmostPlaced idUser router)
    (known : idUser ∈ router.mUsers) (zoneKnown : idZone ∈ router.mZones) :
    (∃ next, router.setUserToZone idUser idZone = some next ∧ Membership next ∧
        (idUser ∈ next.mUsers → idZone ∈ next.mZones → next.InOnly idUser idZone)) ↔
      router.Placeable idUser idZone := by
  constructor
  · intro places
    rcases places with ⟨next, moved, _, reaches⟩
    have sameUsers : next.mUsers = router.mUsers := (setUserToZone_leavesOthers moved).pointers
    have sameZones : next.mZones = router.mZones := (setUserToZone_keepsService moved).zonePointers
    have inOnly := reaches (sameUsers ▸ known) (sameZones ▸ zoneKnown)
    apply Classical.byContradiction
    intro stuck
    exact almost.not_inTable_of_not_placeable known zoneKnown stuck moved inOnly.1
  · intro placeable
    rcases almost.setUserToZone_placeable known zoneKnown placeable with
      ⟨next, moved, placed, inOnly⟩
    exact ⟨next, moved, placed.membership, fun _ _ => inOnly⟩

/-- After enrolling, all but the enrolled user agree with the tables, and the
enrolled user names the zone it named, or -1. -/
theorem Placed.addUser_almostPlaced (placed : Placed router) {idUser token : Int}
    (added : router.addUser idUser token = some next) :
    AlmostPlaced idUser next ∧ idUser ∈ next.mUsers ∧
      next.namedBy idUser = router.namedBy idUser := by
  rcases placed.toSound.addUser idUser token with ⟨next', added', sound⟩
  have same := Option.mem_unique added' added
  subst same
  by_cases known : idUser ∈ router.mUsers
  · rcases addUser_known_names placed.users known token with ⟨users, stored, names⟩
    have same := Option.mem_unique stored added
    subst same
    refine ⟨⟨sound, ?_, ?_⟩, known, ?_⟩
    · intro other idZone _
      rw [names]
      exact placed.membership other idZone
    · intro idZone inTable
      rw [names]
      exact ((placed.membership idUser idZone).mp inTable).1
    · rcases (mem_mUsers_iff placed.users).mp known with ⟨user, found⟩
      have named : router.Names idUser user.mZone := ⟨user, found, rfl⟩
      rw [namedBy_of_names named, namedBy_of_names ((names idUser user.mZone).mpr named)]
  · rcases addUser_new_names placed.users known token with
      ⟨created, stored, tables, sameZones, users, names⟩
    have same := Option.mem_unique stored added
    subst same
    refine ⟨⟨sound, ?_, ?_⟩, (users idUser).mpr (.inl rfl), ?_⟩
    · intro other idZone different
      rw [tables, names, if_neg different, sameZones]
      exact placed.membership other idZone
    · intro idZone inTable
      exact absurd (placed.toSound.mem_of_inTable ((tables idUser idZone).mp inTable)) known
    · have missing : router.findUser idUser = none := by
        rw [findUser, placed.users.find_eq_none_iff, FiniteMap.getElem?_eq_none_iff]
        exact known
      have named : created.Names idUser (-1) := (names idUser (-1)).mpr ((if_pos rfl).mpr rfl)
      rw [namedBy_of_names named, namedBy, missing, Option.map_none, Option.getD_none]

theorem place_addUserRcvd {idUser token idZone : Int} {enrolled : Router}
    (added : router.addUser idUser token = some enrolled) :
    place router (.addUserRcvd idUser token idZone) = enrolled.setUserToZone idUser idZone := by
  simp only [place, AddUserRcvd.exec, added, Option.bind_eq_bind, Option.bind_some]

theorem keepsMembership_of_untargeted {before : List Placement} {event : Placement}
    (untargeted : event.target = none) :
    KeepsMembership before router event ↔
      ∃ next, place router event = some next ∧ Membership next := by
  simp only [KeepsMembership, untargeted, reduceCtorEq, false_implies, implies_true, and_true]

theorem keepsMembership_of_target {before : List Placement} {event : Placement}
    (target : event.target = some (idUser, idZone)) :
    KeepsMembership before router event ↔
      ∃ next, place router event = some next ∧ Membership next ∧
        (idUser ∈ next.mUsers → idZone ∈ next.mZones → next.InOnly idUser idZone) := by
  simp only [KeepsMembership, target, Option.some.injEq, Prod.mk.injEq, and_imp,
    forall_apply_eq_imp_iff, forall_eq']

theorem setUserToZone_absent (unknown : ¬ (idUser ∈ router.mUsers ∧ idZone ∈ router.mZones)) :
    router.setUserToZone idUser idZone = some router := by
  apply setUserToZone_unknown
  rw [FiniteMap.getElem?_eq_none_iff, FiniteMap.getElem?_eq_none_iff]
  exact Classical.not_and_iff_not_or_not.mp unknown

namespace Placed

variable {before : List Placement} {event : Placement}

theorem keepsMembership_iff (placed : Placed router) :
    KeepsMembership before router event ↔ WellPlaced before router event := by
  cases event with
  | addUser idUser token =>
      rcases placed.addUser_iff idUser token with ⟨next, added, _, _, agrees⟩
      rw [keepsMembership_of_untargeted rfl, place, added]
      simp only [Option.some.injEq, exists_eq_left', agrees, WellPlaced]
  | addZone idZone =>
      rcases placed.addZone_iff idZone with ⟨next, added, _, agrees⟩
      rw [keepsMembership_of_untargeted rfl, place, added]
      simp only [Option.some.injEq, exists_eq_left', agrees, WellPlaced]
  | delZone idZone =>
      rcases placed.delZone_membership idZone with ⟨next, deleted, _, membership⟩
      rw [keepsMembership_of_untargeted rfl, place, deleted]
      simp only [Option.some.injEq, exists_eq_left', membership, WellPlaced]
  | setUserToZone idUser idZone =>
      rw [keepsMembership_of_target rfl, place]
      by_cases both : idUser ∈ router.mUsers ∧ idZone ∈ router.mZones
      · rw [(placed.almostPlaced idUser).places_iff both.1 both.2]
        exact ⟨fun placeable _ _ => placeable, fun placeable => placeable both.1 both.2⟩
      · rw [setUserToZone_absent both]
        simp only [Option.some.injEq, exists_eq_left', placed.membership, true_and, WellPlaced]
        constructor
        · intro _ known zoneKnown
          exact absurd ⟨known, zoneKnown⟩ both
        · intro _ known zoneKnown
          exact absurd ⟨known, zoneKnown⟩ both
  | addUserRcvd idUser token idZone =>
      rcases placed.addUser_iff idUser token with ⟨enrolled, added, _, sameZones, agrees⟩
      rcases placed.addUser_almostPlaced added with ⟨almost, known, named⟩
      rw [keepsMembership_of_target rfl, place_addUserRcvd added]
      by_cases zoneKnown : idZone ∈ router.mZones
      · rw [almost.places_iff known (sameZones ▸ zoneKnown), Placeable, named, sameZones]
        exact (iff_of_eq (if_pos zoneKnown)).symm
      · have absent : idZone ∉ enrolled.mZones := sameZones ▸ zoneKnown
        rw [setUserToZone_absent (fun both => absent both.2)]
        simp only [Option.some.injEq, exists_eq_left', absent, false_implies, implies_true,
          and_true, agrees]
        exact (iff_of_eq (if_neg zoneKnown)).symm

/-- A well-placed call keeps the invariant. -/
theorem place (placed : Placed router) (wellPlaced : WellPlaced before router event)
    (done : Router.place router event = some next) : Placed next := by
  have membership : Membership next := by
    rcases placed.keepsMembership_iff.mpr wellPlaced with ⟨after, done', membership, _⟩
    have same := Option.mem_unique done' done
    exact same ▸ membership
  have moves : ∀ {enrolled : Router} {idUser idZone : Int}, AlmostPlaced idUser enrolled →
      (idUser ∈ enrolled.mUsers → idZone ∈ enrolled.mZones →
        enrolled.Placeable idUser idZone) →
      enrolled.setUserToZone idUser idZone = some next → Sound next := by
    intro enrolled idUser idZone almost placeable moved
    by_cases both : idUser ∈ enrolled.mUsers ∧ idZone ∈ enrolled.mZones
    · rcases almost.setUserToZone_placeable both.1 both.2 (placeable both.1 both.2) with
        ⟨after, moved', placed', _⟩
      have same := Option.mem_unique moved' moved
      exact same ▸ placed'.toSound
    · have same := Option.mem_unique (setUserToZone_absent both) moved
      exact same ▸ almost.toSound
  refine ⟨?_, membership⟩
  cases event with
  | addUser idUser token =>
      rcases placed.addUser_iff idUser token with ⟨after, added, sound, _⟩
      have same := Option.mem_unique added done
      exact same ▸ sound
  | addZone idZone =>
      rcases placed.addZone_iff idZone with ⟨after, added, sound, _⟩
      have same := Option.mem_unique added done
      exact same ▸ sound
  | delZone idZone =>
      rcases placed.delZone_membership idZone with ⟨after, deleted, sound, _⟩
      have same := Option.mem_unique deleted done
      exact same ▸ sound
  | setUserToZone idUser idZone =>
      exact moves (placed.almostPlaced idUser) wellPlaced done
  | addUserRcvd idUser token idZone =>
      rcases placed.addUser_iff idUser token with ⟨enrolled, added, _, sameZones, _⟩
      rcases placed.addUser_almostPlaced added with ⟨almost, _, named⟩
      rw [place_addUserRcvd added] at done
      refine moves almost (fun _ zoneKnown => ?_) done
      rw [sameZones] at zoneKnown
      rw [Placeable, named, sameZones]
      exact (iff_of_eq (if_pos zoneKnown)).mp wellPlaced

end Placed

/-- From every state in order, along every run of calls and messages, users
and tables agree after each of them and every user is placed where it should
be, if and only if each is well placed. -/
theorem membership_iff (placed : Placed start) (events : List Placement) :
    AtEach place KeepsMembership start events ↔ AtEach place WellPlaced start events := by
  refine atEach_iff (fun _ => True) (fun _ router => Placed router) (fun _ _ _ => trivial)
    placed ?_ ?_ trivial
  · intro before router event _ placed
    exact placed.keepsMembership_iff
  · intro before router event next _ placed wellPlaced done
    exact placed.place wellPlaced done

/-- With a zone -1, a new user is placed, and moves on. -/
theorem membership_of_placed_user :
    AtEach place KeepsMembership Router.empty
      [.addZone (-1), .addZone 3, .addUserRcvd 1 5 3, .setUserToZone 1 (-1)] := by
  apply (membership_iff Placed.empty _).mpr
  refine atEach_cons.mpr ⟨.inr fun idUser => not_names_of_empty rfl idUser (-1), ?_⟩
  intro next done
  cases done
  refine atEach_cons.mpr ⟨.inr fun idUser => not_names_of_empty rfl idUser 3, ?_⟩
  intro next done
  cases done
  refine atEach_cons.mpr ⟨?_, fun next done => ?_⟩
  · rw [WellPlaced]
    decide
  · cases done
    exact atEach_cons.mpr ⟨fun _ _ => by decide, fun _ _ => atEach_nil⟩

/-- A new user cannot be placed. -/
theorem new_user_not_placed :
    ¬ AtEach place KeepsMembership Router.empty [.addUser 1 5, .addZone 3, .setUserToZone 1 3] := by
  intro held
  rcases held [.addUser 1 5, .addZone 3] (.setUserToZone 1 3) [] _ rfl rfl with ⟨next, done, _⟩
  cases done

end Router
end Pxc
