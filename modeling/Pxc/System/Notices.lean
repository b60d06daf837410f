import Pxc.System.UserPath

namespace Pxc
namespace System

open General

/-!
# What the login server says of users

The notices to Control are in order: an id enters at most once and leaves at
most once.  The login server hands every id out once, and an id that has left
has no session any more, so it cannot leave again.  A refused login is the
exception, since it announces whatever its locals hold.
-/

/-- The effect of a notice on the users that are online. -/
def enter (online : FiniteMap Int Int) : Notice → FiniteMap Int Int
  | .entered idUser token => online.insert idUser token
  | .left idUser => online.erase idUser

/-- The users that have entered and not left, with their tokens. -/
def online (notices : List Notice) : FiniteMap Int Int :=
  notices.foldl enter ∅

def Notice.enteredId : Notice → Option Int
  | .entered idUser _ => some idUser
  | .left _ => none

def Notice.leftId : Notice → Option Int
  | .entered _ _ => none
  | .left idUser => some idUser

/-- The ids that have entered. -/
def enteredIds (notices : List Notice) : List Int :=
  notices.filterMap Notice.enteredId

/-- The ids that have left. -/
def leftIds (notices : List Notice) : List Int :=
  notices.filterMap Notice.leftId

theorem online_append (first second : List Notice) :
    online (first ++ second) = second.foldl enter (online first) :=
  List.foldl_append

theorem enteredIds_append (first second : List Notice) :
    enteredIds (first ++ second) = enteredIds first ++ enteredIds second :=
  List.filterMap_append

theorem leftIds_append (first second : List Notice) :
    leftIds (first ++ second) = leftIds first ++ leftIds second :=
  List.filterMap_append

theorem enteredIds_left (notices : List Notice) (idUser : Int) :
    enteredIds (notices ++ [.left idUser]) = enteredIds notices := by
  rw [enteredIds_append]
  exact List.append_nil _

theorem leftIds_entered (notices : List Notice) (idUser token : Int) :
    leftIds (notices ++ [.entered idUser token]) = leftIds notices := by
  rw [leftIds_append]
  exact List.append_nil _

/-- An id that has entered and not left is online. -/
theorem mem_online {idUser : Int} {notices : List Notice} (entered : idUser ∈ enteredIds notices)
    (stayed : idUser ∉ leftIds notices) : idUser ∈ online notices := by
  induction notices using List.reverseRecOn with
  | nil => cases entered
  | append_singleton notices notice inductionHypothesis =>
      rw [enteredIds_append, List.mem_append] at entered
      rw [leftIds_append, List.mem_append, not_or] at stayed
      rw [online_append]
      change idUser ∈ enter (online notices) notice
      cases notice with
      | entered other token =>
          apply Std.ExtTreeMap.mem_insert.mpr
          rw [Std.compare_eq_iff_eq]
          rcases entered with before | now
          · exact .inr (inductionHypothesis before stayed.1)
          · exact .inl (List.mem_singleton.mp now).symm
      | left other =>
          rcases entered with before | now
          · refine FiniteMap.mem_erase_iff.mpr ⟨?_, inductionHypothesis before stayed.1⟩
            intro same
            exact stayed.2 (List.mem_singleton.mpr same.symm)
          · cases now

/-- Every id enters at most once and leaves at most once. -/
structure Orderly (notices : List Notice) : Prop where
  entered_once : (enteredIds notices).Nodup
  left_once : (leftIds notices).Nodup

/-- Every id was handed out before it was said to enter or leave, and none
that has left still has a session. -/
structure Accounted (notices : List Notice) (login : LoginServer.Login) : Prop where
  orderly : Orderly notices
  entered_issued : ∀ idUser ∈ enteredIds notices, idUser < login.nextFreeToken
  left_issued : ∀ idUser ∈ leftIds notices, idUser < login.nextFreeToken
  left_gone : ∀ idUser ∈ leftIds notices, idUser ∉ login.userTokenMap

namespace Accounted

variable {notices : List Notice} {login : LoginServer.Login} {user : String} {idUser : Int}
  {connection : LoginServer.Connection} {before : List LoginServer.Event}

/-- A session that ends may be said to have left. -/
theorem forget (accounted : Accounted notices login) (live : idUser ∈ login.userTokenMap)
    (issued : idUser < login.nextFreeToken) :
    Accounted (notices ++ [.left idUser]) (LoginServer.forget login user idUser connection) where
  orderly := by
    refine ⟨?_, ?_⟩
    · rw [enteredIds_left]
      exact accounted.orderly.entered_once
    · rw [leftIds_append]
      refine List.nodup_append.mpr ⟨accounted.orderly.left_once, List.nodup_singleton idUser, ?_⟩
      intro earlier member other now same
      rw [List.mem_singleton.mp now] at same
      exact accounted.left_gone earlier member (same ▸ live)
  entered_issued := by
    rw [enteredIds_left]
    exact accounted.entered_issued
  left_issued := by
    intro other member
    rw [leftIds_append, List.mem_append] at member
    rcases member with earlier | now
    · exact accounted.left_issued other earlier
    · rw [List.mem_singleton.mp now]
      exact issued
  left_gone := by
    intro other member live'
    rw [leftIds_append, List.mem_append] at member
    rcases FiniteMap.mem_erase_iff.mp live' with ⟨different, live''⟩
    rcases member with earlier | now
    · exact accounted.left_gone other earlier live''
    · exact different (List.mem_singleton.mp now).symm

/-- A session that opens may be said to have entered. -/
theorem openSession (accounted : Accounted notices login) (few : login.nextFreeToken < 2 ^ 31) :
    Accounted (notices ++ [.entered (LoginServer.nextId login) (LoginServer.nextId login)])
      (LoginServer.openSession login connection user) := by
  have next : LoginServer.nextId login = login.nextFreeToken :=
    LoginServer.SessionTable.nextId_eq few
  have counter : (LoginServer.openSession login connection user).nextFreeToken =
      login.nextFreeToken + 1 := by
    change (login.nextFreeToken + 1) % LoginServer.unsignedRange = _
    exact Nat.mod_eq_of_lt (by unfold LoginServer.unsignedRange; omega)
  refine ⟨⟨?_, ?_⟩, ?_, ?_, ?_⟩
  · rw [enteredIds_append]
    refine List.nodup_append.mpr ⟨accounted.orderly.entered_once, List.nodup_singleton _, ?_⟩
    intro earlier member other now same
    rw [List.mem_singleton.mp now, next] at same
    have issued := accounted.entered_issued earlier member
    omega
  · rw [leftIds_entered]
    exact accounted.orderly.left_once
  · intro other member
    rw [counter]
    rw [enteredIds_append, List.mem_append] at member
    rcases member with earlier | now
    · have issued := accounted.entered_issued other earlier
      omega
    · rw [List.mem_singleton.mp now, next]
      omega
  · intro other member
    rw [leftIds_entered] at member
    have issued := accounted.left_issued other member
    omega
  · intro other member live
    rw [leftIds_entered] at member
    rcases FiniteMap.mem_insertIfNew_iff.mp live with opened | live'
    · have issued := accounted.left_issued other member
      rw [← opened, next] at issued
      omega
    · exact accounted.left_gone other member live'

/-- What may be said may also be kept back. -/
theorem silent {more : List Notice} (accounted : Accounted (notices ++ more) login) :
    Accounted notices login where
  orderly := by
    have orderly := accounted.orderly
    refine ⟨?_, ?_⟩
    · have once := orderly.entered_once
      rw [enteredIds_append] at once
      exact (List.nodup_append.mp once).1
    · have once := orderly.left_once
      rw [leftIds_append] at once
      exact (List.nodup_append.mp once).1
  entered_issued := fun idUser member => accounted.entered_issued idUser
    (enteredIds_append notices more ▸ List.mem_append_left _ member)
  left_issued := fun idUser member => accounted.left_issued idUser
    (leftIds_append notices more ▸ List.mem_append_left _ member)
  left_gone := fun idUser member => accounted.left_gone idUser
    (leftIds_append notices more ▸ List.mem_append_left _ member)

/-- The notice of a handler goes to this Control, or elsewhere. -/
theorem sendControl {message : LoginServer.Message} {notice : Notice} {ended : LoginServer.Login}
    (accounted : Accounted (notices ++ [notice]) ended) (control : LoginServer.Connection)
    (meaning : noticeOf message = [notice]) :
    Accounted (notices ++ said control (login.sendControl message)) ended := by
  cases connected : login.controlConnection with
  | none =>
      rw [LoginServer.Login.sendControl, connected]
      exact (List.append_nil notices).symm ▸ accounted.silent
  | some other =>
      rw [LoginServer.Login.sendControl, connected]
      simp only [said_singleton, meaning]
      split
      · exact accounted
      · exact (List.append_nil notices).symm ▸ accounted.silent

end Accounted

/-! ## What the login server says -/

/-- What has been said to this Control is in order. -/
structure Spoken (control : LoginServer.Connection) (before : List LoginServer.Event)
    (notices : List Notice) (world : LoginServer.World) : Prop where
  notices_said : notices = said control world.sent
  after : LoginServer.TableAfter before world.login
  accounted : Accounted notices world.login

/-- No login is refused, and fewer than 2 ^ 31 are accepted. -/
def Accepting (events : List LoginServer.Event) : Prop :=
  LoginServer.FewLogins events ∧ ∀ event ∈ events, event.refused = false

theorem accepting_prefixClosed : PrefixClosed Accepting := by
  rintro first second ⟨few, accepted⟩
  exact ⟨LoginServer.fewLogins_prefixClosed first second few,
    fun event member => accepted event (List.mem_append_left second member)⟩

theorem Spoken.initial (control : LoginServer.Connection) :
    Spoken control [] [] LoginServer.World.initial where
  notices_said := rfl
  after := LoginServer.TableAfter.initial
  accounted := by
    refine ⟨⟨List.nodup_nil, List.nodup_nil⟩, ?_, ?_, ?_⟩ <;>
      exact fun _ member => absurd member List.not_mem_nil

/-- An answer to a client says nothing to Control. -/
theorem said_answer (control : LoginServer.Connection) {answer : LoginServer.Sent}
    (answers : noticeOf answer.message = []) : said control [answer] = [] := by
  rw [said_singleton, answers, ite_self]

/-- Every handler but that of a refused login keeps the notices in order. -/
theorem Accounted.step {control : LoginServer.Connection} {before : List LoginServer.Event}
    {event : LoginServer.Event} {notices : List Notice} {login next : LoginServer.Login}
    {sent : List LoginServer.Sent} (accounted : Accounted notices login)
    (after : LoginServer.TableAfter before login) (allowed : Accepting (before ++ [event]))
    (handled : LoginServer.Handled login event next sent) :
    Accounted (notices ++ said control sent) next := by
  have few := after.few allowed.1
  have unsaid : ∀ {login : LoginServer.Login}, Accounted notices login →
      Accounted (notices ++ []) login := by
    intro login accounted
    exact (List.append_nil notices).symm ▸ accounted
  cases handled with
  | refused c user unset =>
      have accepted := allowed.2 _ (List.mem_append_right before (List.mem_singleton.mpr rfl))
      cases accepted
  | firstLogin c user unset unknown =>
      have answered : said control [LoginServer.acceptedAnswer login c unset] = [] :=
        said_answer control rfl
      rw [said_append, answered, List.append_nil]
      exact (accounted.openSession few).sendControl control rfl
  | relogin c user unset oldClientId oldToken oldConnection known stored connected removable =>
      have answered : said control [LoginServer.acceptedAnswer login c unset] = [] :=
        said_answer control rfl
      have retired : Accounted (notices ++ said control
          (login.sendControl (.clientDisconnectSend oldClientId oldToken)))
          (LoginServer.forget login user oldClientId oldConnection) :=
        (accounted.forget removable.id_live
          (after.table.issued _ removable.id_live)).sendControl control rfl
      have opened : Accounted (notices ++ said control
          (login.sendControl (.clientDisconnectSend oldClientId oldToken)) ++ said control
            (login.sendControl
              (.newClientSend (LoginServer.nextId login) (LoginServer.nextId login))))
          (LoginServer.openSession (LoginServer.forget login user oldClientId oldConnection) c
            user) :=
        (retired.openSession few).sendControl control rfl
      rw [said_append, said_append, answered, List.append_nil, ← List.append_assoc]
      exact opened
  | logoutUnknown =>
      rw [said_answer control rfl]
      exact unsaid accounted
  | logoutWrongToken =>
      rw [said_answer control rfl]
      exact unsaid accounted
  | logout c clientId token user stored named removable =>
      rw [said_append, said_answer control rfl, List.append_nil]
      exact (accounted.forget removable.id_live
        (after.table.issued _ removable.id_live)).sendControl control rfl
  | closedUnknown => exact unsaid accounted
  | closed c clientId user carried named removable =>
      exact unsaid (accounted.forget removable.id_live
        (after.table.issued _ removable.id_live)).silent
  | control c =>
      exact unsaid ⟨accounted.orderly, accounted.entered_issued, accounted.left_issued,
        accounted.left_gone⟩

section Programs

variable {D : Type} [Zero D] [Add D] [Control.Arithmetic D] [LT D] [DecidableLT D]
  {players : Option (List Control.PlayerRow)} {control : LoginServer.Connection}
  {c : Router.Connection}

/-- The login server says nothing out of turn. -/
theorem speaks :
    Line.Speaks (Spoken control) (programs players control c : Programs D) speech Accepting := by
  intro before event notices world world' sent allowed spoken emitted
  rcases Option.map_eq_some_iff.mp emitted with ⟨⟨login, all⟩, done, same⟩
  cases same
  have few := spoken.after.few allowed.1
  have handled := (LoginServer.handle_iff (spoken.after.table.unissued few)).mp done
  refine ⟨?_, spoken.after.step allowed.1 handled,
    spoken.accounted.step spoken.after allowed handled⟩
  rw [spoken.notices_said, said_append]
  rfl

end Programs

end System
end Pxc
