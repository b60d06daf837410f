import Pxc.System.Directory

namespace Pxc
namespace System

open General

/-!
# When the router knows all users

As long as no login is refused, no connection with a session closes and no
lookup of a login or logout fails, what the login server has said to Control
is its own token map.  The router then has exactly the login server's users as
soon as nothing is on its way, and what is on its way can always be delivered,
provided that Control finds a zone with a server for the users that are still
to enter.
-/

/-- The client whose request is handled. -/
def client : LoginServer.Event → Option LoginServer.Connection
  | .loginRequest c _ _ _ => some c
  | .logoutRequest c _ _ => some c
  | .connectionClosed _ => none
  | .controlConnection _ => none

/-- No other Control announces itself to the login server, and this one is no
client of it. -/
def OneControl (control : LoginServer.Connection) (events : List LoginServer.Event) : Prop :=
  ∀ event ∈ events, client event ≠ some control ∧ ∀ c, event = .controlConnection c → c = control

theorem oneControl_prefixClosed (control : LoginServer.Connection) :
    PrefixClosed (OneControl control) :=
  fun _ second held event member => held event (List.mem_append_left second member)

theorem OneControl.last {control : LoginServer.Connection} {before : List LoginServer.Event}
    {event : LoginServer.Event} (one : OneControl control (before ++ [event])) :
    client event ≠ some control ∧ ∀ c, event = .controlConnection c → c = control :=
  one event (List.mem_append_right before (List.mem_singleton.mpr rfl))

variable {control : LoginServer.Connection} {login next : LoginServer.Login}
  {event : LoginServer.Event} {sent : List LoginServer.Sent}

/-- A message that a handler sends is a notice to Control or an answer. -/
theorem sent_of_handled (handled : LoginServer.Handled login event next sent)
    {message : LoginServer.Sent} (member : message ∈ sent) :
    (message.message.isNotice = true ∧ login.controlConnection = some message.connection) ∨
      (message.message.isNotice = false ∧ client event = some message.connection) := by
  have told : ∀ {content}, content.isNotice = true → message ∈ login.sendControl content →
      message.message.isNotice = true ∧ login.controlConnection = some message.connection := by
    intro content notice told
    unfold LoginServer.Login.sendControl at told
    split at told
    · next control connected =>
      rw [List.mem_singleton.mp told]
      exact ⟨notice, connected⟩
    · cases told
  have answered : ∀ {answer : LoginServer.Sent}, answer.message.isNotice = false →
      client event = some answer.connection → message ∈ [answer] →
        message.message.isNotice = false ∧ client event = some message.connection := by
    intro answer silent asked member
    rw [List.mem_singleton.mp member]
    exact ⟨silent, asked⟩
  cases handled with
  | refused =>
      rcases List.mem_append.mp member with entered | answer
      · exact .inl (told rfl entered)
      · exact .inr (answered rfl rfl answer)
  | firstLogin =>
      rcases List.mem_append.mp member with entered | answer
      · exact .inl (told rfl entered)
      · exact .inr (answered rfl rfl answer)
  | relogin =>
      rcases List.mem_append.mp member with notices | answer
      · rcases List.mem_append.mp notices with left | entered
        · exact .inl (told rfl left)
        · exact .inl (told rfl entered)
      · exact .inr (answered rfl rfl answer)
  | logoutUnknown => exact .inr (answered rfl rfl member)
  | logoutWrongToken => exact .inr (answered rfl rfl member)
  | logout =>
      rcases List.mem_append.mp member with left | answer
      · exact .inl (told rfl left)
      · exact .inr (answered rfl rfl answer)
  | closedUnknown => cases member
  | closed => cases member
  | control => cases member

/-- The login server is connected with this Control, and has told no other of
its users. -/
structure Addressed (control : LoginServer.Connection) (world : LoginServer.World) : Prop where
  connected : world.login.controlConnection = some control
  addressed : ∀ message ∈ world.sent, message.message.isNotice = true →
    message.connection = control

namespace Addressed

variable {world : LoginServer.World} {before : List LoginServer.Event}

theorem online (control : LoginServer.Connection) :
    Addressed control (LoginServer.World.online control) :=
  ⟨rfl, fun _ member => absurd member List.not_mem_nil⟩

/-- Every notice of a handler goes to the connected Control. -/
theorem step (addressed : Addressed control world) (one : OneControl control (before ++ [event]))
    (handled : LoginServer.Handled world.login event next sent) :
    Addressed control ⟨next, world.sent ++ sent⟩ where
  connected := by
    cases handled with
    | control c => exact congrArg some (one.last.2 c rfl)
    | _ => exact addressed.connected
  addressed := by
    intro message member notice
    rcases List.mem_append.mp member with earlier | now
    · exact addressed.addressed message earlier notice
    · rcases sent_of_handled handled now with ⟨_, told⟩ | ⟨silent, _⟩
      · exact Option.some.inj (told.symm.trans addressed.connected)
      · rw [notice] at silent
        cases silent

/-- A message changes what Control believes as it changes who is online. -/
theorem announce_eq {message : LoginServer.Sent}
    (toControl : message.message.isNotice = true → message.connection = control)
    (believed : FiniteMap Int Int) :
    LoginServer.announce believed message = (said control [message]).foldl enter believed := by
  rcases message with ⟨connection, content⟩
  have silent : noticeOf content = [] → said control [⟨connection, content⟩] = [] := by
    intro silent
    rw [said_singleton, silent, ite_self]
  rw [said_singleton] at silent ⊢
  cases content with
  | newClientSend => exact (if_pos (toControl rfl)).symm ▸ rfl
  | clientDisconnectSend => exact (if_pos (toControl rfl)).symm ▸ rfl
  | loginRequestSend => exact (silent rfl).symm ▸ rfl
  | logoutRequestSend => exact (silent rfl).symm ▸ rfl

/-- What Control believes is what it was told. -/
theorem announced_eq_online (addressed : Addressed control world) :
    LoginServer.announced world.sent = System.online (said control world.sent) := by
  have general : ∀ (sent : List LoginServer.Sent) (believed : FiniteMap Int Int),
      (∀ message ∈ sent, message.message.isNotice = true → message.connection = control) →
        sent.foldl LoginServer.announce believed = (said control sent).foldl enter believed := by
    intro sent
    induction sent with
    | nil => exact fun _ _ => rfl
    | cons message sent inductionHypothesis =>
        intro believed toControl
        rw [List.foldl_cons, announce_eq (toControl message List.mem_cons_self),
          inductionHypothesis _ fun other member => toControl other (List.mem_cons_of_mem _ member),
          ← List.foldl_append, ← said_append, List.singleton_append]
  exact general world.sent ∅ addressed.addressed

end Addressed

section Runs

variable {D : Type} [Zero D] [Add D] [Control.Arithmetic D] [LT D] [DecidableLT D]
  {players : Option (List Control.PlayerRow)} {c : Router.Connection}
  {zoneServer : Fin Control.NZONES → Option Control.Address}
  {acts : List (Act LoginServer.Event (Round D))} {line : Path}

theorem run_login {world : LoginServer.World}
    (reached : run (Line.step (programs players control c)) (Path.opening world zoneServer) acts =
      some line) : run LoginServer.step world (emittedBy acts) = some line.source := by
  have steps : (fun world event => (emit control world event).map Prod.fst) =
      LoginServer.step := by
    funext world event
    rw [emit, Option.map_map]
    rfl
  exact steps ▸ Line.run_source reached

/-- Every event of the run can be told to Control. -/
def Tellable (control : LoginServer.Connection) (events : List LoginServer.Event) : Prop :=
  LoginServer.FewLogins events ∧ OneControl control events ∧
    AtEach LoginServer.step (fun _ world event => LoginServer.Announceable world.login event)
      (LoginServer.World.online control) events

/-- An event that can be told is no refused login. -/
theorem Tellable.accepting {events : List LoginServer.Event} {world : LoginServer.World}
    (tellable : Tellable control events)
    (reached : run LoginServer.step (LoginServer.World.online control) events = some world) :
    Accepting events := by
  refine ⟨tellable.1, ?_⟩
  intro event member
  rcases List.append_of_mem member with ⟨before, after, rfl⟩
  rcases exists_states_of_split reached with ⟨state, _, earlier, _, _⟩
  have announceable := tellable.2.2 before event after state rfl earlier
  cases event with
  | loginRequest c user valid unset =>
      rw [announceable.1]
      rfl
  | logoutRequest => rfl
  | connectionClosed => rfl
  | controlConnection => rfl

/-- The login server's users are those that are online by what it has said. -/
theorem online_said_of_run {events : List LoginServer.Event} {world : LoginServer.World}
    (tellable : Tellable control events)
    (reached : run LoginServer.step (LoginServer.World.online control) events = some world) :
    online (said control world.sent) = world.login.userTokenMap := by
  have kept : LoginServer.ControlInformed events world ∧ Addressed control world := by
    refine run_invariant (fun events => LoginServer.FewLogins events ∧ OneControl control events)
      (fun events world => LoginServer.ControlInformed events world ∧ Addressed control world)
      ?_ ⟨LoginServer.ControlInformed.online control, Addressed.online control⟩ ?_
      ⟨tellable.1, tellable.2.1⟩ tellable.2.2 reached
    · rintro first second ⟨few, one⟩
      exact ⟨LoginServer.fewLogins_prefixClosed first second few,
        oneControl_prefixClosed control first second one⟩
    · rintro before world event next ⟨few, one⟩ ⟨informed, addressed⟩ announceable stepped
      refine ⟨informed.step few announceable stepped, ?_⟩
      rcases LoginServer.handled_of_step informed.after few stepped with ⟨sent, handled, log⟩
      rcases next with ⟨login, log'⟩
      cases log
      exact addressed.step one handled
  rw [← kept.2.announced_eq_online]
  exact kept.1.believed

theorem opening_online (control : LoginServer.Connection) :
    Opening control (LoginServer.World.online control) where
  notices_said := rfl
  after := (LoginServer.ControlInformed.online control).after
  accounted := by
    refine ⟨⟨List.nodup_nil, List.nodup_nil⟩, ?_, ?_, ?_⟩ <;>
      exact fun _ member => absurd member List.not_mem_nil

/-- All that waits at Control are notices. -/
theorem waiting_notices (few : LoginServer.FewLogins (emittedBy acts))
    (one : OneControl control (emittedBy acts))
    (reached : run (Line.step (programs players control c))
      (Path.opening (LoginServer.World.online control) zoneServer) acts = some line) :
    ∀ message ∈ line.first, message.isNotice = true := by
  let admissible := fun acts : List (Act LoginServer.Event (Round D)) =>
    LoginServer.FewLogins (emittedBy acts) ∧ OneControl control (emittedBy acts)
  have kept : LoginServer.TableAfter (emittedBy acts) line.source.login ∧
      ∀ message ∈ line.first, message.isNotice = true := by
    refine run_invariant_of_step admissible (fun acts line =>
      LoginServer.TableAfter (emittedBy acts) line.source.login ∧
        ∀ message ∈ line.first, message.isNotice = true) ?_ ?_ ?_ ⟨few, one⟩ reached
    · rintro first second ⟨few, one⟩
      rw [emittedBy_append] at few one
      exact ⟨LoginServer.fewLogins_prefixClosed _ _ few, oneControl_prefixClosed control _ _ one⟩
    · exact ⟨(opening_online control).after, fun _ member => absurd member List.not_mem_nil⟩
    · rintro before line act next ⟨few, one⟩ ⟨after, notices⟩ stepped
      rw [emittedBy_append] at few one ⊢
      cases act with
      | emit event =>
          rcases Option.map_eq_some_iff.mp stepped with ⟨⟨world, messages⟩, emitted, rfl⟩
          rcases Option.map_eq_some_iff.mp emitted with ⟨⟨login, sent⟩, done, same⟩
          cases same
          have handled := (LoginServer.handle_iff
            (after.table.unissued (after.few few))).mp done
          refine ⟨after.step few handled, fun message member => ?_⟩
          rcases List.mem_append.mp member with earlier | now
          · exact notices message earlier
          · rcases List.mem_map.mp now with ⟨envelope, kept, rfl⟩
            rcases List.mem_filter.mp kept with ⟨member, addressed⟩
            rcases sent_of_handled handled member with ⟨notice, _⟩ | ⟨_, asked⟩
            · exact notice
            · rw [of_decide_eq_true addressed] at asked
              exact absurd asked one.last.1
      | change change =>
          rcases Option.map_eq_some_iff.mp stepped with ⟨_, _, rfl⟩
          exact ⟨(List.append_nil (emittedBy before)).symm ▸ after, notices⟩
      | forward =>
          rcases Line.forward_eq_some_iff.mp stepped with ⟨message, first, _, waiting, _, rfl⟩
          refine ⟨(List.append_nil (emittedBy before)).symm ▸ after, fun other member => ?_⟩
          exact notices other (waiting ▸ List.mem_cons_of_mem message member)
      | receive =>
          rcases Line.receive_eq_some_iff.mp stepped with ⟨_, _, _, _, _, rfl⟩
          exact ⟨(List.append_nil (emittedBy before)).symm ▸ after, notices⟩
  exact kept.2

/-- When nothing is on its way, the router has exactly the login server's
users, each with its token. -/
theorem router_knows_users (tellable : Tellable control (emittedBy acts))
    (reached : run (Line.step (programs players control c))
      (Path.opening (LoginServer.World.online control) zoneServer) acts = some line)
    (delivered : line.first = [] ∧ line.second = []) (idUser : Int) :
    (line.sink.findUser idUser).map Router.User.mToken =
      line.source.login.userTokenMap[idUser]? := by
  have login := run_login reached
  rcases told_of_acts (opening_online control) (tellable.accepting login) reached with
    ⟨heard, spoken, registered⟩
  have all : heard = said control line.source.sent := by
    rw [← spoken.notices_said, Line.unheard, delivered.1, delivered.2]
    exact (List.append_nil heard).symm
  rw [registered.tokens, all, online_said_of_run tellable login]

/-- Two users log in. -/
def twoLogins : List (Act LoginServer.Event (Round ℚ)) :=
  [.emit (.loginRequest 1 "ana" true default), .emit (.loginRequest 2 "bea" true default)]

theorem twoLogins_tellable : Tellable 9 (emittedBy twoLogins) := by
  refine ⟨by decide, ?_, ?_⟩
  · refine List.forall_mem_cons.mpr ⟨⟨by decide, fun _ other => ?_⟩,
      List.forall_mem_singleton.mpr ⟨by decide, fun _ other => ?_⟩⟩
    · cases other
    · cases other
  · refine atEach_cons.mpr ⟨⟨rfl, fun _ known => ?_⟩, fun next stepped => ?_⟩
    · cases known
    · cases stepped
      refine atEach_cons.mpr ⟨⟨rfl, fun _ known => ?_⟩, fun _ _ => atEach_nil⟩
      cases known

/-- Both are told to the router. -/
def twoDelivered : List (Act LoginServer.Event (Round ℚ)) :=
  twoLogins ++ [.forward, .receive, .forward, .receive]

theorem router_knows_two_users :
    ∃ line, run (Line.step (programs twoRows 9 3))
        (Path.opening (LoginServer.World.online 9) fun _ => some 7) twoDelivered = some line ∧
      ∀ idUser, (line.sink.findUser idUser).map Router.User.mToken =
        line.source.login.userTokenMap[idUser]? := by
  have reached : run (Line.step (programs twoRows 9 3))
    (Path.opening (LoginServer.World.online 9) fun _ => some 7) twoDelivered = some _ := rfl
  have tellable : Tellable 9 (emittedBy twoDelivered) := twoLogins_tellable
  exact ⟨_, reached, router_knows_users tellable reached ⟨rfl, rfl⟩⟩

/-- From every state, deliveries alone bring the router to know the login
server's users, if Control finds a zone with a server for those who are still
to enter. -/
theorem router_learns_users (tellable : Tellable control (emittedBy acts))
    (reached : run (Line.step (programs players control c))
      (Path.opening (LoginServer.World.online control) zoneServer) acts = some line)
    (owned : ∀ idUser token, .newClientSend idUser token ∈ line.first →
      Control.HasOwnedZone players line.relay idUser) :
    ∃ (more : List (Act LoginServer.Event (Round D))) (final : Path),
      (∀ act ∈ more, act.delivers = true) ∧
      run (Line.step (programs players control c)) line more = some final ∧
      final.source = line.source ∧ final.first = [] ∧ final.second = [] ∧ ∀ idUser,
        (final.sink.findUser idUser).map Router.User.mToken =
          line.source.login.userTokenMap[idUser]? := by
  have allowed := tellable.accepting (run_login reached)
  have forwardable : ∀ message ∈ line.first,
      ∃ sent, forward players line.relay message = some sent := by
    intro message member
    have notice := waiting_notices tellable.1 tellable.2.1 reached message member
    apply (exists_forward_iff notice).mpr
    rintro idUser token rfl
    exact owned idUser token member
  rcases Line.exists_delivered accepting_prefixClosed (faithful players control c) speaks listens
    (told_opening (opening_online control)) allowed reached forwardable with
    ⟨more, final, deliveries, onwards, sameSource, delivered⟩
  refine ⟨more, final, deliveries, ?_, sameSource, delivered.1, delivered.2, ?_⟩
  · rw [run_append, reached] at onwards
    exact onwards
  · rw [← sameSource]
    apply router_knows_users _ onwards delivered
    rw [emittedBy_append, emittedBy_deliveries deliveries, List.append_nil]
    exact tellable

theorem router_learns_two_users :
    ∃ line final, run (Line.step (programs twoRows 9 3))
        (Path.opening (LoginServer.World.online 9) fun _ => some 7) twoLogins = some line ∧
      ∀ idUser, (Router.findUser final idUser).map Router.User.mToken =
        line.source.login.userTokenMap[idUser]? := by
  have reached : run (Line.step (programs twoRows 9 3))
    (Path.opening (LoginServer.World.online 9) fun _ => some 7) twoLogins = some _ := rfl
  have owned : ∀ idUser token, LoginServer.Message.newClientSend idUser token ∈
      [LoginServer.Message.newClientSend 0 0, .newClientSend 1 1] →
        Control.HasOwnedZone twoRows (fun _ => some 7) idUser := by
    intro idUser token member
    rcases List.mem_cons.mp member with first | others
    · cases first
      exact ⟨_, rfl, ⟨2, by decide⟩, rfl, Option.some_ne_none _⟩
    · cases List.mem_singleton.mp others
      exact ⟨_, rfl, ⟨2, by decide⟩, rfl, Option.some_ne_none _⟩
  rcases router_learns_users twoLogins_tellable reached owned with
    ⟨_, final, _, _, _, _, _, users⟩
  exact ⟨_, final.sink, reached, users⟩

end Runs

end System
end Pxc
