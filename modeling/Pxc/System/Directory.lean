import Pxc.Router.Tables
import Pxc.System.Notices

namespace Pxc
namespace System

open General

/-!
# The router's users

Whatever the delays on the two connections, the router knows the users that
have entered and not left, as far as the notices of the login server have come
through, each with its token.

`Router::delUser` frees the object of a user and leaves the pointer to it, and
an id that entered or left again would lead to that object.  No id does, as
the notices are in order, so no message of Control makes the router use a
freed object.
-/

/-- The router's users are those that are online by the notices it has heard.
It has no zones, and none of its users has a connection. -/
structure Registered (heard : List Notice) (router : Router) : Prop where
  borrowing : Router.Borrowing router
  no_zones : router.mZones = ∅
  tokens : ∀ idUser, (router.findUser idUser).map Router.User.mToken = (online heard)[idUser]?
  known : ∀ idUser ∈ router.mUsers, idUser ∈ enteredIds heard
  unconnected : ∀ idUser user, router.findUser idUser = some user → user.mConnection = none

namespace Registered

variable {heard : List Notice} {router : Router} {idUser zone : Int}

theorem empty : Registered [] Router.empty where
  borrowing := Router.Borrowing.empty
  no_zones := rfl
  tokens := fun _ => rfl
  known := fun _ member => absurd member Std.ExtTreeMap.not_mem_empty
  unconnected := by
    intro idUser user found
    cases found

/-- A user whose id is new gets an object of its own. -/
theorem addUser (registered : Registered heard router) (absent : idUser ∉ router.mUsers)
    (token : Int) :
    ∃ next, router.addUser idUser token = some next ∧
      Registered (heard ++ [.entered idUser token]) next := by
  have unknown := FiniteMap.getElem?_eq_none_iff.mpr absent
  have done : router.addUser idUser token = some { router with
      users := router.users.alloc (Router.User.create idUser token)
      mUsers := router.mUsers.insert idUser router.users.next } := by
    unfold Router.addUser
    rw [unknown]
  have finds : ∀ other, find (router.mUsers.insert idUser router.users.next)
      (router.users.alloc (Router.User.create idUser token)) other =
        if idUser = other then some (Router.User.create idUser token)
        else router.findUser other :=
    registered.borrowing.labels.find_alloc (Router.User.create idUser token)
  refine ⟨_, done, registered.borrowing.addUser done, registered.no_zones, ?_, ?_, ?_⟩
  · intro other
    rw [online_append]
    change (find _ _ other).map Router.User.mToken = ((online heard).insert idUser token)[other]?
    rw [finds, Std.ExtTreeMap.getElem?_insert]
    simp only [Std.compare_eq_iff_eq]
    split
    · rfl
    · exact registered.tokens other
  · intro other member
    rw [enteredIds_append]
    rcases Std.ExtTreeMap.mem_insert.mp member with same | earlier
    · rw [Std.compare_eq_iff_eq] at same
      exact List.mem_append_right _ (List.mem_singleton.mpr same.symm)
    · exact List.mem_append_left _ (registered.known other earlier)
  · intro other user found
    change find _ _ other = some user at found
    rw [finds] at found
    split at found
    · cases found
      rfl
    · exact registered.unconnected other user found

theorem setUserToZone (registered : Registered heard router) :
    router.setUserToZone idUser zone = some router := by
  apply Router.setUserToZone_unknown
  rw [registered.no_zones]
  exact .inr Std.ExtTreeMap.getElem?_empty

/-- A user that is not known has not entered. -/
theorem delUser_unknown (registered : Registered heard router) (absent : idUser ∉ router.mUsers) :
    router.delUser idUser = some (router, []) ∧ Registered (heard ++ [.left idUser]) router := by
  have unknown := FiniteMap.getElem?_eq_none_iff.mpr absent
  refine ⟨?_, registered.borrowing, registered.no_zones, ?_, ?_, registered.unconnected⟩
  · unfold Router.delUser
    rw [unknown]
  · intro other
    rw [online_append]
    change _ = ((online heard).erase idUser)[other]?
    rw [FiniteMap.getElem?_erase_eq, ← registered.tokens other]
    split
    · next same =>
      subst same
      rw [Router.findUser, find, unknown]
      rfl
    · rfl
  · intro other member
    rw [enteredIds_left]
    exact registered.known other member

/-- A user that is known loses its object; the pointer stays. -/
theorem delUser_known {user : Router.User} (registered : Registered heard router)
    (found : router.findUser idUser = some user) :
    ∃ next, router.delUser idUser = some (next, []) ∧
      Registered (heard ++ [.left idUser]) next := by
  rcases find_eq_some_iff.mp found with ⟨address, pointer, loaded⟩
  rcases Heap.exists_free loaded with ⟨users, freed⟩
  have noZone : router.foundZoneDelUser user.mZone idUser = some router.zones := by
    unfold Router.foundZoneDelUser
    rw [registered.no_zones, Std.ExtTreeMap.getElem?_empty]
  have done : router.delUser idUser = some ({ router with users }, []) := by
    unfold Router.delUser
    simp only [pointer, loaded, noZone, registered.unconnected idUser user found, Router.closeOn,
      freed, Option.bind_eq_bind, Option.bind_some, Option.pure_def]
  have finds : ∀ other, find router.mUsers users other =
      if idUser = other then none else router.findUser other :=
    registered.borrowing.labels.find_free pointer freed
  refine ⟨_, done, registered.borrowing.of_retains (Router.delUser_retains done),
    registered.no_zones, ?_, ?_, ?_⟩
  · intro other
    rw [online_append]
    change (find router.mUsers users other).map Router.User.mToken =
      ((online heard).erase idUser)[other]?
    rw [finds, FiniteMap.getElem?_erase_eq, ← registered.tokens other]
    split <;> rfl
  · intro other member
    rw [enteredIds_left]
    exact registered.known other member
  · intro other user' found'
    change find router.mUsers users other = some user' at found'
    rw [finds] at found'
    split at found'
    · cases found'
    · exact registered.unconnected other user' found'

theorem delUser (registered : Registered heard router) (stayed : idUser ∉ leftIds heard) :
    ∃ next, router.delUser idUser = some (next, []) ∧
      Registered (heard ++ [.left idUser]) next := by
  by_cases member : idUser ∈ router.mUsers
  · have present := mem_online (registered.known idUser member) stayed
    rcases FiniteMap.exists_of_mem present with ⟨token, stored⟩
    rw [← registered.tokens idUser] at stored
    rcases Option.map_eq_some_iff.mp stored with ⟨user, found, _⟩
    exact registered.delUser_known found
  · rcases registered.delUser_unknown member with ⟨done, following⟩
    exact ⟨router, done, following⟩

end Registered

section Programs

variable {D : Type} [Zero D] [Add D] [Control.Arithmetic D] [LT D] [DecidableLT D]
  {players : Option (List Control.PlayerRow)} {control : LoginServer.Connection}
  {c : Router.Connection}

/-- The router can handle whatever is said next. -/
theorem listens :
    Line.Listens (Spoken control) Registered (programs players control c : Programs D) speech := by
  intro events heard message rest world router spoken registered
  have orderly := spoken.accounted.orderly
  cases message with
  | changeZone message => exact ⟨router, rfl, (List.append_nil heard).symm ▸ registered⟩
  | newUser message =>
      have absent : message.idUser ∉ router.mUsers := by
        intro member
        have once := orderly.entered_once
        rw [enteredIds_append, enteredIds_append] at once
        exact (List.nodup_append.mp once).2.2 _ (registered.known _ member) _
          (List.mem_append_left _ (List.mem_singleton.mpr rfl)) rfl
      rcases registered.addUser absent message.token with ⟨next, added, following⟩
      refine ⟨next, ?_, following⟩
      have moved : next.setUserToZone message.idUser message.zonaUser = some next :=
        following.setUserToZone
      have executed : Router.AddUserRcvd.exec message.idUser message.token message.zonaUser router =
          some next := by
        simp only [Router.AddUserRcvd.exec, added, moved, Option.bind_eq_bind, Option.bind_some]
      change (Option.map _ (Router.AddUserRcvd.exec _ _ _ router)).map Prod.fst = some next
      rw [executed]
      rfl
  | deleteUser message =>
      have stayed : message.idUser ∉ leftIds heard := by
        intro member
        have once := orderly.left_once
        rw [leftIds_append, leftIds_append] at once
        exact (List.nodup_append.mp once).2.2 _ member _
          (List.mem_append_left _ (List.mem_singleton.mpr rfl)) rfl
      rcases registered.delUser stayed with ⟨next, deleted, following⟩
      refine ⟨next, ?_, following⟩
      change (Router.DelUserRcvd.exec message.idUser router).map Prod.fst = some next
      simp only [Router.DelUserRcvd.exec, deleted, Option.bind_eq_bind, Option.bind_some,
        Option.pure_def, Option.map_some]

end Programs

section Runs

variable {D : Type} [Zero D] [Add D] [Control.Arithmetic D] [LT D] [DecidableLT D]
  {players : Option (List Control.PlayerRow)} {control : LoginServer.Connection}
  {c : Router.Connection} {zoneServer : Fin Control.NZONES → Option Control.Address}
  {acts : List (Act LoginServer.Event (Round D))} {line : Path} {world : LoginServer.World}

/-- A login server that has done nothing yet. -/
def Opening (control : LoginServer.Connection) (world : LoginServer.World) : Prop :=
  Spoken control [] [] world

theorem opening_initial (control : LoginServer.Connection) :
    Opening control LoginServer.World.initial :=
  Spoken.initial control

theorem told_opening (opening : Opening control world) :
    Line.Told (Spoken control) Registered speech []
      (Path.opening world zoneServer) :=
  ⟨[], opening, Registered.empty⟩

theorem told_of_acts (opening : Opening control world) (allowed : Accepting (emittedBy acts))
    (reached : run (Line.step (programs players control c)) (Path.opening world zoneServer) acts =
      some line) : Line.Told (Spoken control) Registered speech (emittedBy acts) line :=
  Line.told_of_run accepting_prefixClosed (faithful players control c) speaks listens
    (told_opening opening) allowed reached

/-- In every run, the router's users and their tokens are those that are
online by the notices that have come through.  These are the first that the
login server has sent, and the others are on their way, in order. -/
theorem users_of_run (allowed : Accepting (emittedBy acts))
    (reached : run (Line.step (programs players control c))
      (Path.opening LoginServer.World.initial zoneServer) acts = some line) :
    ∃ heard, said control line.source.sent = heard ++ line.unheard speech ∧
      ∀ idUser, (line.sink.findUser idUser).map Router.User.mToken = (online heard)[idUser]? := by
  rcases told_of_acts (opening_initial control) allowed reached with ⟨heard, spoken, registered⟩
  exact ⟨heard, spoken.notices_said.symm, registered.tokens⟩

/-- Two users log in, and one logs out again; one message has arrived at the
router, and two are on their way. -/
def twoUsers : List (Act LoginServer.Event (Round ℚ)) :=
  [.emit (.controlConnection 9), .emit (.loginRequest 1 "ana" true default),
    .emit (.loginRequest 2 "bea" true default), .forward, .receive, .forward,
    .emit (.logoutRequest 1 0 0)]

/-- The zones stored for the two users. -/
def twoRows : Option (List Control.PlayerRow) :=
  some [⟨0, 2⟩, ⟨1, 2⟩]

theorem users_of_two_users :
    ∃ line heard, run (Line.step (programs twoRows 9 3))
        (Path.opening LoginServer.World.initial fun _ => some 7) twoUsers = some line ∧
      said 9 line.source.sent = heard ++ line.unheard speech ∧
      ∀ idUser, (line.sink.findUser idUser).map Router.User.mToken = (online heard)[idUser]? := by
  have reached : run (Line.step (programs twoRows 9 3))
    (Path.opening LoginServer.World.initial fun _ => some 7) twoUsers = some _ := rfl
  rcases users_of_run ⟨by decide, by decide⟩ reached with ⟨heard, split, users⟩
  exact ⟨_, heard, reached, split, users⟩

/-- In every run, the router can handle what has arrived. -/
theorem received_of_run (allowed : Accepting (emittedBy acts))
    (reached : run (Line.step (programs players control c))
      (Path.opening LoginServer.World.initial zoneServer) acts = some line)
    {message : Control.RouterMessage} {rest : List Control.RouterMessage}
    (waiting : line.second = message :: rest) :
    ∃ router sendings, Router.ControlListener.callbackFunction line.sink (instruction message) c =
      some (router, sendings) := by
  have told := told_of_acts (opening_initial control) allowed reached
  have hears : Line.Listens (Spoken control) Registered (programs players control c : Programs D)
      speech := listens
  rcases told.receive hears waiting with ⟨router, received, _⟩
  rcases Option.map_eq_some_iff.mp received with ⟨⟨_, sendings⟩, done, rfl⟩
  exact ⟨_, sendings, done⟩

theorem received_of_two_users :
    ∃ line message rest router sendings, run (Line.step (programs twoRows 9 3))
        (Path.opening LoginServer.World.initial fun _ => some 7) twoUsers = some line ∧
      line.second = message :: rest ∧
      Router.ControlListener.callbackFunction line.sink (instruction message) 3 =
        some (router, sendings) := by
  have reached : run (Line.step (programs twoRows 9 3))
    (Path.opening LoginServer.World.initial fun _ => some 7) twoUsers = some _ := rfl
  rcases received_of_run ⟨by decide, by decide⟩ reached rfl with ⟨router, sendings, done⟩
  exact ⟨_, _, _, router, sendings, reached, rfl, done⟩

end Runs

end System
end Pxc
