import Pxc.General.Guards

namespace Pxc
namespace Router

open General

/-!
# The mutexes of the router

Each operation of the router takes its mutexes in its first statements and
gives them back when it returns.  What it does in between is a list of reads
and writes of the router's maps and of the fields of its users, zones and
servers, of which there is one for each way through the operation.  The calls
that it makes on connections are taken to return, and deleting an object
writes all of its fields.

The mutexes come in the order users, zones, servers everywhere.  Not every
field is guarded: `delZone` uses the servers without their mutex, `delUser` the
zones, and `sendToServerUsers` the zones and the users.
-/

/-- The router's mutexes. -/
inductive Mutex where
  | mRouterUsersMutex
  | mRouterZonesMutex
  | mRouterServersMutex
  deriving DecidableEq, Repr

/-- The order in which they are taken. -/
def Mutex.rank : Mutex → Nat
  | .mRouterUsersMutex => 0
  | .mRouterZonesMutex => 1
  | .mRouterServersMutex => 2

/-- The router's maps, and the fields of its users, zones and servers.  Two
accesses to a field may be to the same object. -/
inductive Cell where
  | mUsers
  | mZones
  | mServers
  | userId
  | userToken
  | userZone
  | userConnection
  | zoneId
  | zoneServer
  | zoneNewServer
  | zoneUsers
  | zoneInTransfer
  | serverZones
  | serverConnection
  deriving DecidableEq, Repr

/-- An access to a field. -/
inductive CellAccess where
  | read (cell : Cell)
  | write (cell : Cell)
  deriving DecidableEq, Repr

namespace CellAccess

def cell : CellAccess → Cell
  | .read cell => cell
  | .write cell => cell

def writes : CellAccess → Bool
  | .read _ => false
  | .write _ => true

/-- Two accesses to the same field, one of which writes it. -/
def Conflict (first second : CellAccess) : Prop :=
  first.cell = second.cell ∧ (first.writes = true ∨ second.writes = true)

instance decidableConflict (first second : CellAccess) : Decidable (Conflict first second) :=
  inferInstanceAs (Decidable (_ ∧ _))

end CellAccess

/-- The router's public operations. -/
inductive Method where
  | addServer
  | connectServer
  | delServer
  | addZone
  | delZone
  | startZoneToServerTransfer
  | endZoneToServerTransfer
  | addUser
  | delUser
  | validateUser
  | connectUser
  | setUserToZone
  | sendToServer
  | sendToServerUsers
  | sendToZone
  | sendToUser
  deriving DecidableEq, Repr

/-- The mutexes that an operation takes. -/
def Method.mutexes : Method → List Mutex
  | .addServer | .connectServer | .delServer | .sendToServer | .sendToServerUsers =>
      [.mRouterServersMutex]
  | .addZone | .delZone | .sendToZone => [.mRouterZonesMutex]
  | .addUser | .delUser | .validateUser | .connectUser | .sendToUser => [.mRouterUsersMutex]
  | .startZoneToServerTransfer | .endZoneToServerTransfer =>
      [.mRouterZonesMutex, .mRouterServersMutex]
  | .setUserToZone => [.mRouterUsersMutex, .mRouterZonesMutex]

/-! ## Ways through the operations -/

/-- `delete` of a user. -/
def deleteUserAccesses : List CellAccess :=
  [.read .userConnection, .write .userId, .write .userToken, .write .userZone,
    .write .userConnection]

/-- `delete` of a zone. -/
def deleteZoneAccesses : List CellAccess :=
  [.write .zoneId, .write .zoneServer, .write .zoneNewServer, .write .zoneUsers,
    .write .zoneInTransfer]

/-- `delete` of a server. -/
def deleteServerAccesses : List CellAccess :=
  [.read .serverConnection, .write .serverZones, .write .serverConnection]

/-- `find` in a table, and then a change of it or not. -/
def lookUp (table : Cell) (changes : Bool) : List CellAccess :=
  .read table :: if changes then [.write table] else []

/-- `Zone::sendToUsers`, with so many users. -/
def sendToUsersAccesses (users : Nat) : List CellAccess :=
  .read .zoneUsers :: List.replicate users (.read .userConnection)

/-- Each way through an operation with the accesses that it makes.  The two
ways on which the operation is undefined are left out: `setUserToZone` from a
zone that is unknown, and `sendToZone` to one. -/
inductive Way : Method → List CellAccess → Prop where
  | addServer (absent : Bool) : Way .addServer (lookUp .mServers absent)
  | connectServerUnknown : Way .connectServer [.read .mServers]
  | connectServer : Way .connectServer (.read .mServers :: lookUp .serverConnection true)
  | delServerUnknown : Way .delServer [.read .mServers]
  | delServer : Way .delServer (.read .mServers :: deleteServerAccesses ++ [.write .mServers])
  | addZone (absent : Bool) : Way .addZone (lookUp .mZones absent)
  | delZoneUnknown : Way .delZone [.read .mZones]
  | delZoneServerless : Way .delZone
      ([.read .mZones, .read .zoneServer, .read .mServers] ++ deleteZoneAccesses ++
        [.write .mZones])
  | delZone (listed : Bool) : Way .delZone
      ([.read .mZones, .read .zoneServer, .read .mServers] ++ lookUp .serverZones listed ++
        deleteZoneAccesses ++ [.write .mZones])
  | startUnknown : Way .startZoneToServerTransfer [.read .mZones, .read .mServers]
  | start : Way .startZoneToServerTransfer
      [.read .mZones, .read .mServers, .write .zoneNewServer, .write .zoneInTransfer]
  | endUnknown : Way .endZoneToServerTransfer [.read .mZones]
  | endIdle : Way .endZoneToServerTransfer [.read .mZones, .read .zoneInTransfer]
  | endServerless : Way .endZoneToServerTransfer
      [.read .mZones, .read .zoneInTransfer, .read .zoneServer, .read .zoneNewServer,
        .read .mServers, .read .mServers]
  | endTransfer (listed : Bool) : Way .endZoneToServerTransfer
      ([.read .mZones, .read .zoneInTransfer, .read .zoneServer, .read .zoneNewServer,
        .read .mServers, .read .mServers] ++ lookUp .serverZones listed ++
        [.read .zoneId, .write .serverZones, .read .zoneInTransfer, .read .zoneNewServer,
          .write .zoneServer, .write .zoneNewServer, .write .zoneInTransfer])
  | addUser : Way .addUser (lookUp .mUsers true)
  | addUserKnown : Way .addUser [.read .mUsers, .write .userToken]
  | delUserUnknown : Way .delUser [.read .mUsers]
  | delUserZoneless : Way .delUser
      ([.read .mUsers, .read .userZone, .read .mZones] ++ deleteUserAccesses)
  | delUser (listed : Bool) : Way .delUser
      ([.read .mUsers, .read .userZone, .read .mZones] ++ lookUp .zoneUsers listed ++
        deleteUserAccesses)
  | validateUserUnknown : Way .validateUser [.read .mUsers]
  | validateUser : Way .validateUser [.read .mUsers, .write .userToken]
  | connectUserUnknown : Way .connectUser [.read .mUsers]
  | connectUserInvalid : Way .connectUser [.read .mUsers, .write .userToken]
  | connectUser : Way .connectUser
      ([.read .mUsers, .write .userToken] ++ lookUp .userConnection true)
  | setUserToZoneUnknown : Way .setUserToZone [.read .mUsers, .read .mZones]
  | setUserToZone (absent listed : Bool) : Way .setUserToZone
      ([.read .mUsers, .read .mZones, .read .userZone, .read .mZones, .read .userId,
        .read .zoneUsers] ++ (if absent then [.read .userId, .write .zoneUsers] else []) ++
        lookUp .zoneUsers listed ++ [.write .userZone])
  | sendToServerUnknown : Way .sendToServer [.read .mServers]
  | sendToServer : Way .sendToServer [.read .mServers, .read .serverConnection]
  | sendToServerUsersUnknown : Way .sendToServerUsers [.read .mServers]
  | sendToServerUsers (zones : List Nat) : Way .sendToServerUsers
      ([.read .mServers, .read .serverZones] ++ zones.flatMap sendToUsersAccesses)
  | sendToZone : Way .sendToZone [.read .mZones]
  | sendToUserUnknown : Way .sendToUser [.read .mUsers]
  | sendToUser : Way .sendToUser [.read .mUsers, .read .userConnection]

/-- A call of one of these operations, on some way through it. -/
def Calls (allowed : Method → Prop) (job : Job Mutex CellAccess) : Prop :=
  ∃ method accesses, allowed method ∧ Way method accesses ∧ job = ⟨method.mutexes, accesses⟩

theorem Method.ranked (method : Method) :
    method.mutexes.Pairwise fun first second => first.rank < second.rank := by
  cases method <;> decide

theorem Mutex.rank_lt (mutex : Mutex) : mutex.rank < 3 := by
  cases mutex <;> decide

theorem Calls.ranked {allowed : Method → Prop} (job : Job Mutex CellAccess)
    (calls : Calls allowed job) :
    job.mutexes.Pairwise fun first second => first.rank < second.rank := by
  rcases calls with ⟨method, accesses, _, _, rfl⟩
  exact method.ranked

theorem Calls.nodup {allowed : Method → Prop} (job : Job Mutex CellAccess)
    (calls : Calls allowed job) : job.mutexes.Nodup :=
  (calls.ranked job).imp fun lower => ne_of_apply_ne Mutex.rank (Nat.ne_of_lt lower)

/-- In every interleaving of any number of calls by any number of threads, some
thread can go on until all calls have returned, and without new calls they go
on for a bounded number of steps.  So they return, in whatever order the
threads are scheduled. -/
theorem calls_return {acts : List (CrewAct Mutex CellAccess)}
    {crew next : List (Worker Mutex CellAccess)} {indices : List Nat}
    (calls : ∀ act ∈ acts, Crew.Starts (Calls fun _ => True) act)
    (ran : run Crew.step [] acts = some crew)
    (went : run Crew.step crew (indices.map .go) = some next) :
    indices.length ≤ Crew.size crew ∧
      ((∀ worker ∈ next, worker.Finished) ∨
        ∃ index later, Crew.step next (.go index) = some later) := by
  have sound := Crew.Sound.of_run calls ran
  have shorter := Crew.size_of_run went
  refine ⟨by omega, ?_⟩
  by_cases busy : ∃ worker ∈ next, ¬ worker.Finished
  · exact Or.inr ((sound.goes went).exists_go Mutex.rank 3 Calls.ranked Mutex.rank_lt busy)
  · refine Or.inl fun worker member => ?_
    by_contra working
    exact busy ⟨worker, member, working⟩

/-- Two calls at once, of which the first waits for the second. -/
def overlap : List (CrewAct Mutex CellAccess) :=
  [.start ⟨Method.setUserToZone.mutexes, [.read .mUsers, .read .mZones]⟩,
    .start ⟨Method.endZoneToServerTransfer.mutexes, [.read .mZones]⟩, .go 0, .go 1]

theorem overlap_returns : ∃ crew next : List (Worker Mutex CellAccess),
    run Crew.step [] overlap = some crew ∧ run Crew.step crew [.go 1] = some next ∧
      ((∀ worker ∈ next, worker.Finished) ∨
        ∃ index later, Crew.step next (.go index) = some later) := by
  have calls : ∀ act ∈ overlap, Crew.Starts (Calls fun _ => True) act := by
    intro act member
    simp only [overlap, List.mem_cons, List.not_mem_nil, or_false] at member
    rcases member with rfl | rfl | rfl | rfl
    · exact ⟨_, _, trivial, .setUserToZoneUnknown, rfl⟩
    · exact ⟨_, _, trivial, .endUnknown, rfl⟩
    · trivial
    · trivial
  have reached : ∃ crew next : List (Worker Mutex CellAccess),
      run Crew.step [] overlap = some crew ∧ run Crew.step crew ([1].map .go) = some next :=
    ⟨_, _, rfl, rfl⟩
  rcases reached with ⟨crew, next, ran, went⟩
  exact ⟨crew, next, ran, went, (calls_return calls ran went).2⟩

/-! ## Races -/

/-- The accesses of an operation, on any way through it. -/
def Method.accesses : Method → List CellAccess
  | .addServer => lookUp .mServers true
  | .connectServer => .read .mServers :: lookUp .serverConnection true
  | .delServer => .read .mServers :: deleteServerAccesses ++ [.write .mServers]
  | .addZone => lookUp .mZones true
  | .delZone =>
      [.read .mZones, .read .zoneServer, .read .mServers] ++ lookUp .serverZones true ++
        deleteZoneAccesses ++ [.write .mZones]
  | .startZoneToServerTransfer =>
      [.read .mZones, .read .mServers, .write .zoneNewServer, .write .zoneInTransfer]
  | .endZoneToServerTransfer =>
      [.read .mZones, .read .zoneInTransfer, .read .zoneServer, .read .zoneNewServer,
        .read .mServers, .read .mServers] ++ lookUp .serverZones true ++
        [.read .zoneId, .write .serverZones, .read .zoneInTransfer, .read .zoneNewServer,
          .write .zoneServer, .write .zoneNewServer, .write .zoneInTransfer]
  | .addUser => lookUp .mUsers true ++ [.write .userToken]
  | .delUser =>
      [.read .mUsers, .read .userZone, .read .mZones] ++ lookUp .zoneUsers true ++
        deleteUserAccesses
  | .validateUser => [.read .mUsers, .write .userToken]
  | .connectUser => [.read .mUsers, .write .userToken] ++ lookUp .userConnection true
  | .setUserToZone =>
      [.read .mUsers, .read .mZones, .read .userZone, .read .mZones, .read .userId,
        .read .zoneUsers] ++ [.read .userId, .write .zoneUsers] ++ lookUp .zoneUsers true ++
        [.write .userZone]
  | .sendToServer => [.read .mServers, .read .serverConnection]
  | .sendToServerUsers =>
      [.read .mServers, .read .serverZones] ++ [1].flatMap sendToUsersAccesses
  | .sendToZone => [.read .mZones]
  | .sendToUser => [.read .mUsers, .read .userConnection]

theorem Way.mem_accesses {method : Method} {accesses : List CellAccess}
    (way : Way method accesses) : ∀ access ∈ accesses, access ∈ method.accesses := by
  cases way with
  | addServer absent => cases absent <;> decide
  | addZone absent => cases absent <;> decide
  | delZone listed => cases listed <;> decide
  | endTransfer listed => cases listed <;> decide
  | delUser listed => cases listed <;> decide
  | setUserToZone absent listed => cases absent <;> cases listed <;> decide
  | sendToServerUsers zones =>
      have sends : ∀ users, ∀ access ∈ sendToUsersAccesses users,
          access ∈ Method.sendToServerUsers.accesses := by
        intro users access member
        rcases List.mem_cons.mp member with rfl | replicated
        · decide
        · rw [(List.mem_replicate.mp replicated).2]
          decide
      intro access member
      rcases List.mem_append.mp member with first | sent
      · exact List.mem_append_left _ first
      · rcases List.mem_flatMap.mp sent with ⟨users, _, inside⟩
        exact sends users access inside
  | _ => decide

theorem Method.exists_way {method : Method} {access : CellAccess}
    (member : access ∈ method.accesses) :
    ∃ accesses, Way method accesses ∧ access ∈ accesses := by
  cases method with
  | addServer => exact ⟨_, .addServer true, member⟩
  | connectServer => exact ⟨_, .connectServer, member⟩
  | delServer => exact ⟨_, .delServer, member⟩
  | addZone => exact ⟨_, .addZone true, member⟩
  | delZone => exact ⟨_, .delZone true, member⟩
  | startZoneToServerTransfer => exact ⟨_, .start, member⟩
  | endZoneToServerTransfer => exact ⟨_, .endTransfer true, member⟩
  | addUser =>
      rcases List.mem_append.mp member with added | again
      · exact ⟨_, .addUser, added⟩
      · exact ⟨_, .addUserKnown, List.mem_cons_of_mem _ again⟩
  | delUser => exact ⟨_, .delUser true, member⟩
  | validateUser => exact ⟨_, .validateUser, member⟩
  | connectUser => exact ⟨_, .connectUser, member⟩
  | setUserToZone => exact ⟨_, .setUserToZone true true, member⟩
  | sendToServer => exact ⟨_, .sendToServer, member⟩
  | sendToServerUsers => exact ⟨_, .sendToServerUsers [1], member⟩
  | sendToZone => exact ⟨_, .sendToZone, member⟩
  | sendToUser => exact ⟨_, .sendToUser, member⟩

/-- The pairs of operations without a common mutex and with conflicting
accesses. -/
def unguarded : List (Method × Method) :=
  [(.delUser, .addZone), (.delUser, .delZone), (.delUser, .sendToServerUsers),
    (.connectUser, .sendToServerUsers), (.setUserToZone, .sendToServerUsers),
    (.delZone, .addServer), (.delZone, .delServer), (.delZone, .sendToServerUsers)]

/-- All of the operations. -/
def Method.all : List Method :=
  [.addServer, .connectServer, .delServer, .addZone, .delZone, .startZoneToServerTransfer,
    .endZoneToServerTransfer, .addUser, .delUser, .validateUser, .connectUser, .setUserToZone,
    .sendToServer, .sendToServerUsers, .sendToZone, .sendToUser]

theorem Method.mem_all (method : Method) : method ∈ Method.all := by
  cases method <;> decide

theorem mem_unguarded_iff (first second : Method) :
    (first, second) ∈ unguarded ∨ (second, first) ∈ unguarded ↔
      first.mutexes.Disjoint second.mutexes ∧ ∃ access ∈ first.accesses,
        ∃ another ∈ second.accesses, access.Conflict another := by
  have table : ∀ first ∈ Method.all, ∀ second ∈ Method.all,
      ((first, second) ∈ unguarded ∨ (second, first) ∈ unguarded ↔
        (∀ mutex ∈ first.mutexes, mutex ∉ second.mutexes) ∧ ∃ access ∈ first.accesses,
          ∃ another ∈ second.accesses, access.Conflict another) := by
    decide +kernel
  exact table first first.mem_all second second.mem_all

/-- Whatever operations the threads call: two of them can be about to make
conflicting accesses, for some way through the calls, just when the threads
may call both operations of an unguarded pair. -/
theorem exists_races_iff_unguarded (allowed : Method → Prop) :
    (∃ acts crew, (∀ act ∈ acts, Crew.Starts (Calls allowed) act) ∧
        run Crew.step ([] : List (Worker Mutex CellAccess)) acts = some crew ∧
        Crew.Races CellAccess.Conflict crew) ↔
      ∃ pair ∈ unguarded, allowed pair.1 ∧ allowed pair.2 := by
  rw [Crew.exists_races_iff (Calls allowed) Calls.nodup CellAccess.Conflict]
  constructor
  · rintro ⟨_, _, ⟨first, accesses, may, way, rfl⟩, ⟨second, others, mayToo, wayToo, rfl⟩, apart,
      access, member, another, memberToo, conflicts⟩
    have pair := (mem_unguarded_iff first second).mpr ⟨apart, access,
      way.mem_accesses access member, another, wayToo.mem_accesses another memberToo, conflicts⟩
    rcases pair with listed | listed
    · exact ⟨_, listed, may, mayToo⟩
    · exact ⟨_, listed, mayToo, may⟩
  · rintro ⟨⟨first, second⟩, listed, may, mayToo⟩
    rcases (mem_unguarded_iff first second).mp (Or.inl listed) with
      ⟨apart, access, member, another, memberToo, conflicts⟩
    rcases Method.exists_way member with ⟨accesses, way, inside⟩
    rcases Method.exists_way memberToo with ⟨others, wayToo, insideToo⟩
    exact ⟨_, _, ⟨first, accesses, may, way, rfl⟩, ⟨second, others, mayToo, wayToo, rfl⟩, apart,
      access, inside, another, insideToo, conflicts⟩

end Router
end Pxc
