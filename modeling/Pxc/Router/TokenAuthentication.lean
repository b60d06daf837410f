import Pxc.General.Runs
import Pxc.Router.UserRecords

namespace Pxc
namespace Router

open General

/-!
# Token authentication

A user is to be let in with the token that Control issued last, and with no
other.  The check assigns the presented token instead of comparing it, so it
accepts every token but zero, and it makes the presented token the stored
one.

The theorem at the end is about whole runs and one user that the run does not
remove.  Every check of that user answers rightly and leaves the state alone,
and every connection is attached exactly when it should be, if and only if
each attempt on the user, once it is enrolled, presents the token issued
last, that token is not zero, and a connection that is replaced has not been
deleted before.
-/

variable {router next : Router} {user : Int} {token : Int} {c : Connection}

/-- The token of the most recent `addUser` of a user. -/
def issued (user : Int) (events : List Event) : Option Int :=
  events.foldl
    (fun last event =>
      match event with
      | .addUser idUser token => if idUser = user then some token else last
      | _ => last)
    none

/-- The event enrols the user with this token. -/
def Event.issues (user : Int) : Event → Option Int
  | .addUser idUser token => if idUser = user then some token else none
  | _ => none

theorem issued_concat (user : Int) (before : List Event) (event : Event) :
    issued user (before ++ [event]) = (event.issues user).or (issued user before) := by
  unfold issued
  rw [List.foldl_append]
  cases event with
  | addUser idUser token =>
      by_cases same : idUser = user
      · simp only [List.foldl_cons, List.foldl_nil, Event.issues, if_pos same, Option.some_or]
      · simp only [List.foldl_cons, List.foldl_nil, Event.issues, if_neg same, Option.none_or]
  | _ => rfl

/-- What the token check promises at one event: a known user is accepted
with the token issued last and with no other, checking changes nothing, and
connecting attaches the connection exactly when the check succeeds. -/
def Authenticates (user : Int) (before : List Event) (router : Router) : Event → Prop
  | .validateUser idUser token => idUser = user →
      router.validateUser user token = some (router, decide (issued user before = some token))
  | .connectUser idUser token c => idUser = user →
      if issued user before = some token then
        ∃ address next, router.mUsers[user]? = some address ∧
          router.userConnection address c = some next ∧
          router.connectUser user token c = some next
      else router.connectUser user token c = some router
  | _ => True

/-- The user's connection, if there is one, has not been deleted. -/
def Replaceable (router : Router) (user : Int) : Prop :=
  ∀ address object old, router.mUsers[user]? = some address →
    router.users.load address = some object → object.mConnection = some old →
    old ∉ router.deletedConnections

/-- The attempt presents the token issued last, which is not zero. -/
def PresentsIssued (user : Int) (before : List Event) (router : Router) : Event → Prop
  | .validateUser idUser token => idUser = user →
      ∀ given, issued user before = some given → token = given ∧ token ≠ 0
  | .connectUser idUser token _ => idUser = user →
      ∀ given, issued user before = some given →
        token = given ∧ token ≠ 0 ∧ Replaceable router user
  | _ => True

/-- The run does not remove the user. -/
def Keeps (user : Int) (events : List Event) : Prop :=
  ∀ event ∈ events, event ≠ .delUser user

theorem keeps_prefixClosed (user : Int) : PrefixClosed (Keeps user) :=
  fun _ _ kept event member => kept event (List.mem_append_left _ member)

/-! ## One enrolled user -/

/-- The object that a user's pointer leads to holds the given token. -/
def Stored (router : Router) (user token : Int) : Prop :=
  ∃ address object, router.mUsers[user]? = some address ∧
    router.users.load address = some object ∧ object.mToken = token

/-- The invariant: the user is known exactly when it was enrolled, with the
token issued last, and no two users share an object. -/
structure Enrolled (user : Int) (before : List Event) (router : Router) : Prop where
  unknown : issued user before = none → router.mUsers[user]? = none
  stored : ∀ given, issued user before = some given → Stored router user given
  distinct : ∀ (first second : Int) (address : Address), router.mUsers[first]? = some address →
    router.mUsers[second]? = some address → first = second
  allocated : ∀ (idUser : Int) (address : Address), router.mUsers[idUser]? = some address →
    address < router.users.next

theorem Enrolled.empty (user : Int) : Enrolled user [] Router.empty where
  unknown := fun _ => rfl
  stored := fun _ given => nomatch given
  distinct := fun _ _ _ pointer => nomatch pointer
  allocated := fun _ _ pointer => nomatch pointer

/-- A defined check leaves the presented token in the user's object. -/
theorem stored_of_userValidate {address : Address} {valid : Bool}
    (pointer : router.mUsers[user]? = some address)
    (done : router.userValidate address token = some (next, valid)) :
    next.mUsers[user]? = some address ∧
      (∃ object, next.users.load address = some object ∧ object.mToken = token) ∧
      valid = decide (token ≠ 0) := by
  rcases userValidate_eq_some_iff.mp done with ⟨object, users, _, written, same, valid⟩
  subst same
  rcases Heap.store_eq_some_iff.mp written with ⟨_, _, loads⟩
  exact ⟨pointer, ⟨_, (loads address).trans (if_pos rfl), rfl⟩, valid⟩

theorem stored_of_validateUser {valid : Bool} (known : router.mUsers[user]? ≠ none)
    (done : router.validateUser user token = some (next, valid)) :
    Stored next user token ∧ valid = decide (token ≠ 0) := by
  rcases validateUser_cases done with ⟨unknown, _⟩ | ⟨address, pointer, validated⟩
  · exact absurd unknown known
  · rcases stored_of_userValidate pointer validated with ⟨kept, ⟨object, found, right⟩, valid⟩
    exact ⟨⟨address, object, kept, found, right⟩, valid⟩

theorem stored_of_connectUser (known : router.mUsers[user]? ≠ none)
    (done : router.connectUser user token c = some next) : Stored next user token := by
  rcases connectUser_cases done with
    ⟨unknown, _⟩ | ⟨address, middle, _, pointer, validated, done⟩
  · exact absurd unknown known
  · rcases stored_of_userValidate pointer validated with ⟨kept, ⟨object, found, right⟩, _⟩
    rcases done with same | connected
    · exact same ▸ ⟨address, object, kept, found, right⟩
    · rcases userConnection_eq_some_iff.mp connected with
        ⟨attached, users, foundAgain, _, written, same⟩
      subst same
      have sameObject : object = attached := Option.mem_unique found foundAgain
      subst sameObject
      rcases Heap.store_eq_some_iff.mp written with ⟨_, _, loads⟩
      exact ⟨address, _, kept, (loads address).trans (if_pos rfl), right⟩

theorem Stored.unique {first second : Int} (atFirst : Stored router user first)
    (atSecond : Stored router user second) : first = second := by
  rcases atFirst with ⟨address, object, pointer, found, rfl⟩
  rcases atSecond with ⟨other, object', pointer', found', rfl⟩
  have same : address = other := Option.mem_unique pointer pointer'
  subst same
  rw [Option.mem_unique found found']

theorem Stored.known (stored : Stored router user token) : router.mUsers[user]? ≠ none := by
  rcases stored with ⟨address, _, pointer, _⟩
  rw [pointer]
  exact Option.some_ne_none address

theorem userValidate_stored {address : Address} {object : User}
    (found : router.users.load address = some object) :
    router.userValidate address object.mToken = some (router, decide (object.mToken ≠ 0)) :=
  userValidate_eq_some_iff.mpr ⟨object, router.users, found, Heap.store_same found, rfl, rfl⟩

/-- Replacing a connection never leaves the state as it was: either the old
one is deleted, or there was none. -/
theorem userConnection_ne {address : Address} :
    router.userConnection address c ≠ some router := by
  intro done
  rcases userConnection_eq_some_iff.mp done with ⟨object, users, found, _, written, same⟩
  cases old : object.mConnection with
  | none =>
      rcases Heap.store_eq_some_iff.mp written with ⟨_, _, loads⟩
      have after : router.users.load address = some { object with mConnection := some c } := by
        conv_lhs => rw [same]
        exact (loads address).trans (if_pos rfl)
      rw [Option.mem_unique found after] at old
      cases old
  | some replaced =>
      have lengths := congrArg (fun state : Router => state.deletedConnections.length) same
      simp only [old, Option.toList_some, List.singleton_append, List.length_cons] at lengths
      omega

theorem exists_userConnection_iff (c : Connection) {address : Address} {object : User}
    (found : router.users.load address = some object) :
    (∃ next, router.userConnection address c = some next) ↔
      ∀ old, object.mConnection = some old → old ∉ router.deletedConnections := by
  simp only [userConnection_eq_some_iff]
  constructor
  · intro defined
    rcases defined with ⟨_, attached, _, foundAgain, alive, _⟩
    have same : object = attached := Option.mem_unique found foundAgain
    exact same ▸ alive
  · intro alive
    rcases Heap.exists_store found { object with mConnection := some c } with ⟨users, written⟩
    exact ⟨_, object, users, found, alive, written, rfl⟩

/-- The user's connection, found through the pointer, may be replaced. -/
theorem replaceable_iff {address : Address} {object : User}
    (pointer : router.mUsers[user]? = some address)
    (found : router.users.load address = some object) :
    Replaceable router user ↔
      ∀ old, object.mConnection = some old → old ∉ router.deletedConnections := by
  constructor
  · intro alive old
    exact alive address object old pointer found
  · intro alive other object' old pointer' found' holds
    have sameAddress : address = other := Option.mem_unique pointer pointer'
    subst sameAddress
    have sameObject : object = object' := Option.mem_unique found found'
    subst sameObject
    exact alive old holds

theorem connectUser_stored {address : Address} {object : User}
    (pointer : router.mUsers[user]? = some address)
    (found : router.users.load address = some object) :
    router.connectUser user object.mToken c =
      if decide (object.mToken ≠ 0) then router.userConnection address c else some router := by
  simp only [connectUser, pointer, userValidate_stored found, Option.bind_eq_bind,
    Option.bind_some]

namespace Enrolled

variable {before : List Event} {event : Event}

theorem validate_iff (enrolled : Enrolled user before router) :
    Authenticates user before router (.validateUser user token) ↔
      PresentsIssued user before router (.validateUser user token) := by
  simp only [Authenticates, PresentsIssued, true_implies]
  cases last : issued user before with
  | none =>
      have unknown := enrolled.unknown last
      simp only [validateUser, unknown, reduceCtorEq, decide_false, false_implies, implies_true]
  | some given =>
      have stored := enrolled.stored given last
      simp only [Option.some.injEq, forall_eq']
      constructor
      · intro done
        rcases stored_of_validateUser stored.known done with ⟨presented, valid⟩
        have same : token = given := presented.unique stored
        refine ⟨same, ?_⟩
        simpa only [same, decide_true, true_eq_decide_iff] using valid
      · rintro ⟨rfl, nonzero⟩
        rcases stored with ⟨address, object, pointer, found, rfl⟩
        simp only [validateUser, pointer, userValidate_stored found, ne_eq, nonzero,
          not_false_eq_true, decide_true]

theorem connect_iff (enrolled : Enrolled user before router) :
    Authenticates user before router (.connectUser user token c) ↔
      PresentsIssued user before router (.connectUser user token c) := by
  simp only [Authenticates, PresentsIssued, true_implies]
  cases last : issued user before with
  | none =>
      have unknown := enrolled.unknown last
      simp only [connectUser, unknown, reduceCtorEq, if_false, false_implies, implies_true]
  | some given =>
      have stored := enrolled.stored given last
      simp only [Option.some.injEq, forall_eq']
      by_cases same : given = token
      · subst same
        simp only [if_true, true_and]
        rcases stored with ⟨address, object, pointer, found, rfl⟩
        rw [replaceable_iff pointer found, ← exists_userConnection_iff c found,
          connectUser_stored pointer found]
        constructor
        · rintro ⟨other, next, pointer', attached, done⟩
          have same : address = other := Option.mem_unique pointer pointer'
          subst same
          refine ⟨fun zero => ?_, next, attached⟩
          simp only [zero, ne_eq, not_true_eq_false, decide_false, Bool.false_eq_true,
            if_false] at done
          exact userConnection_ne (attached.trans done.symm)
        · rintro ⟨nonzero, next, attached⟩
          refine ⟨address, next, pointer, attached, ?_⟩
          simp only [ne_eq, nonzero, not_false_eq_true, decide_true, if_true, attached]
      · simp only [same, if_false]
        constructor
        · intro done
          exact absurd (stored.unique (stored_of_connectUser stored.known done)) same
        · rintro ⟨presented, _⟩
          exact absurd presented.symm same

theorem authenticates_iff (enrolled : Enrolled user before router) :
    Authenticates user before router event ↔ PresentsIssued user before router event := by
  cases event with
  | validateUser idUser token =>
      by_cases same : idUser = user
      · subst same
        exact enrolled.validate_iff
      · exact ⟨fun _ subject => absurd subject same, fun _ subject => absurd subject same⟩
  | connectUser idUser token c =>
      by_cases same : idUser = user
      · subst same
        exact enrolled.connect_iff
      · exact ⟨fun _ subject => absurd subject same, fun _ subject => absurd subject same⟩
  | _ => exact Iff.rfl

end Enrolled

theorem stored_of_addUser (done : router.addUser user token = some next) :
    Stored next user token := by
  rcases addUser_cases done with ⟨_, same⟩ | ⟨address, _, users, pointer, _, written, same⟩
  · subst same
    exact ⟨router.users.next, User.create user token, Std.ExtTreeMap.getElem?_insert_self,
      (Heap.load_alloc _ _ _).trans (if_pos rfl), rfl⟩
  · subst same
    rcases Heap.store_eq_some_iff.mp written with ⟨_, _, loads⟩
    exact ⟨address, _, pointer, (loads address).trans (if_pos rfl), rfl⟩

namespace Enrolled

variable {before : List Event} {event : Event}

/-- A step that keeps the pointers keeps the invariant as far as the user's
own token is right. -/
theorem of_leavesOthers {subject : Option Int} (enrolled : Enrolled user before router)
    (leaves : LeavesOthers subject router next) {after : List Event}
    (sameKnown : issued user after = none → issued user before = none)
    (stored : ∀ given, issued user after = some given → Stored next user given) :
    Enrolled user after next where
  unknown := fun none => leaves.pointers ▸ enrolled.unknown (sameKnown none)
  stored := stored
  distinct := fun first second address atFirst atSecond =>
    enrolled.distinct first second address (leaves.pointers ▸ atFirst) (leaves.pointers ▸ atSecond)
  allocated := fun idUser address pointer =>
    leaves.next_address ▸ enrolled.allocated idUser address (leaves.pointers ▸ pointer)

theorem stored_of_leavesOthers {subject : Option Int} (enrolled : Enrolled user before router)
    (leaves : LeavesOthers subject router next) (other : subject ≠ some user)
    (stored : Stored router user token) : Stored next user token := by
  rcases stored with ⟨address, object, pointer, found, holds⟩
  have kept := leaves.tokens address (by
    rintro idUser rfl pointer'
    exact other (congrArg some (enrolled.distinct idUser user address pointer' pointer)))
  rw [found, Option.map_some, Option.map_eq_some_iff] at kept
  rcases kept with ⟨object', found', same⟩
  exact ⟨address, object', leaves.pointers ▸ pointer, found', same.trans holds⟩

private theorem of_new_user (enrolled : Enrolled user before router) {idUser token : Int}
    (users : next.users = router.users.alloc (User.create idUser token))
    (pointers : next.mUsers = router.mUsers.insert idUser router.users.next) :
    Enrolled user (before ++ [.addUser idUser token]) next := by
  have lookup : ∀ other, next.mUsers[other]? =
      if idUser = other then some router.users.next else router.mUsers[other]? := by
    intro other
    simp only [pointers, Std.ExtTreeMap.getElem?_insert, Std.compare_eq_iff_eq]
  have fresh : ∀ other, router.mUsers[other]? ≠ some router.users.next :=
    fun other pointer => absurd (enrolled.allocated other _ pointer) (Nat.lt_irrefl _)
  refine ⟨?_, ?_, ?_, ?_⟩
  · intro none
    rw [issued_concat, Option.or_eq_none_iff] at none
    have other : idUser ≠ user := by
      intro same
      simp only [Event.issues, same, if_true, reduceCtorEq, false_and] at none
    rw [lookup, if_neg other]
    exact enrolled.unknown none.2
  · intro given issuedLast
    rw [issued_concat] at issuedLast
    by_cases same : idUser = user
    · subst same
      simp only [Event.issues, if_true, Option.some_or, Option.some.injEq] at issuedLast
      refine ⟨router.users.next, User.create idUser token, ?_, ?_, issuedLast⟩
      · rw [lookup, if_pos rfl]
      · rw [users, Heap.load_alloc, if_pos rfl]
    · simp only [Event.issues, if_neg same, Option.none_or] at issuedLast
      rcases enrolled.stored given issuedLast with ⟨address, object, pointer, found, holds⟩
      have elsewhere : router.users.next ≠ address := fun equal => fresh user (equal ▸ pointer)
      refine ⟨address, object, ?_, ?_, holds⟩
      · rw [lookup, if_neg same, pointer]
      · rw [users, Heap.load_alloc, if_neg elsewhere, found]
  · intro first second address atFirst atSecond
    rw [lookup] at atFirst atSecond
    split at atFirst <;> split at atSecond
    · next same same' => exact same.symm.trans same'
    · exact absurd (atFirst ▸ atSecond) (fresh second)
    · exact absurd (atSecond ▸ atFirst) (fresh first)
    · exact enrolled.distinct first second address atFirst atSecond
  · intro other address pointer
    rw [lookup] at pointer
    rw [users, Heap.next_alloc]
    split at pointer
    · cases pointer
      exact Nat.lt_succ_self _
    · exact Nat.lt_succ_of_lt (enrolled.allocated other address pointer)

/-- A step that keeps the user, and presents the right token if it is an
attempt, keeps the invariant. -/
theorem step (enrolled : Enrolled user before router) (kept : Keeps user (before ++ [event]))
    (presents : PresentsIssued user before router event)
    (stepped : Router.step router event = some next) :
    Enrolled user (before ++ [event]) next := by
  rcases step_cases stepped with ⟨idUser, token, rfl, _, users, pointers⟩ | leaves
  · exact enrolled.of_new_user users pointers
  · have sameKnown : issued user (before ++ [event]) = none → issued user before = none := by
      rw [issued_concat, Option.or_eq_none_iff]
      exact fun both => both.2
    by_cases about : event.subject = some user
    · apply enrolled.of_leavesOthers leaves sameKnown
      intro given issuedLast
      rw [issued_concat] at issuedLast
      cases event with
      | addUser idUser token =>
          have same : idUser = user := Option.some.inj about
          subst same
          simp only [Event.issues, if_true, Option.some_or, Option.some.injEq] at issuedLast
          exact issuedLast ▸ stored_of_addUser stepped
      | delUser idUser =>
          have same : idUser = user := Option.some.inj about
          subst same
          exact absurd rfl
            (kept (.delUser idUser) (List.mem_append_right _ (List.mem_singleton_self _)))
      | validateUser idUser token =>
          have same : idUser = user := Option.some.inj about
          subst same
          rcases Option.map_eq_some_iff.mp stepped with ⟨⟨_, _⟩, done, rfl⟩
          rw [(presents rfl given issuedLast).1.symm]
          exact (stored_of_validateUser (enrolled.stored given issuedLast).known done).1
      | connectUser idUser token c =>
          have same : idUser = user := Option.some.inj about
          subst same
          rw [(presents rfl given issuedLast).1.symm]
          exact stored_of_connectUser (enrolled.stored given issuedLast).known stepped
      | _ => cases about
    · apply enrolled.of_leavesOthers leaves sameKnown
      intro given issuedLast
      rw [issued_concat] at issuedLast
      have silent : event.issues user = none := by
        cases event with
        | addUser idUser token => exact if_neg fun same => about (congrArg some same)
        | _ => rfl
      rw [silent, Option.none_or] at issuedLast
      exact enrolled.stored_of_leavesOthers leaves about (enrolled.stored given issuedLast)

end Enrolled

/-- Along every run that does not remove the user, the token check keeps its
promises for the user at every call, if and only if every attempt on the
user presents the token issued last, which is not zero, and replaces no
connection that was deleted before. -/
theorem token_authentication_iff {events : List Event} (kept : Keeps user events) :
    AtEach step (Authenticates user) Router.empty events ↔
      AtEach step (PresentsIssued user) Router.empty events := by
  refine atEach_iff (Keeps user) (Enrolled user) (keeps_prefixClosed user) (Enrolled.empty user)
    ?_ ?_ kept
  · intro before router event _ enrolled
    exact enrolled.authenticates_iff
  · intro before router event next within enrolled presents stepped
    exact enrolled.step within presents stepped

/-- A user who presents the right token is checked and connected. -/
theorem authenticates_right_token :
    AtEach step (Authenticates 1) Router.empty
      [.addUser 1 5, .validateUser 1 5, .connectUser 1 5 7] := by
  apply (token_authentication_iff (by simp [Keeps])).mpr
  refine atEach_cons.mpr ⟨trivial, fun next stepped => ?_⟩
  cases stepped
  refine atEach_cons.mpr ⟨fun _ given last => ?_, fun next stepped => ?_⟩
  · cases last
    decide
  · cases stepped
    refine atEach_cons.mpr ⟨fun _ given last => ?_, fun _ _ => atEach_nil⟩
    cases last
    refine ⟨rfl, by decide, fun address object old pointer found holds => ?_⟩
    exact List.not_mem_nil

/-- A wrong token is accepted, and the right one forgotten. -/
theorem accepts_wrong_token :
    Keeps 1 [.addUser 1 5, .validateUser 1 6] ∧
      ¬ AtEach step (Authenticates 1) Router.empty [.addUser 1 5, .validateUser 1 6] := by
  refine ⟨by simp [Keeps], fun held => ?_⟩
  have checked := held [.addUser 1 5] (.validateUser 1 6) [] _ rfl rfl rfl
  have accepted := congrArg (Option.map Prod.snd) checked
  cases accepted

end Router
end Pxc
