import Pxc.LoginServer.Handlers
import Pxc.General.Mutexes

namespace Pxc
namespace LoginServer

open General Threads

/-!
# The threads of the login server

Every accepted connection has a thread of its own, which reads frames and runs
their handlers.  The handlers of the clients' requests run under `loginMutex`
and answer before they give it back.  An answer whose write fails closes the
connection it was written to, on the thread that wrote it, and a connection
accepted by `managerClient` then calls `ClientClosedConnection`, which takes
`loginMutex` once more.

A run is a sequence of moves of these threads in any order.  Taking the mutex,
the session part of a handler, each of its answers, and giving the mutex back
are moves of their own.  The session parts and the answers are the ones of the
handlers as they are defined for the session data; the outcome of each write
is up to the environment.  Control is registered without the mutex, here
between the moves of the other threads.

`sendAnswer` does not look whether the link is online.  On a link that was
closed it calls `SSL_write` with `NULL`, which is undefined, and so is a
handler that works on `end()`.

Every thread takes the mutex around one handler and its answers, and every
action keeps this order but one: a failing answer on an open link whose
closing is listened to, after which its thread asks for the mutex it holds.
-/

/-- What a `TCPConnectionSecurity` remembers about its link.  Its `ssl` is
only compared to `NULL`, and so is its close listener. -/
structure Link where
  online : Bool
  ssl : Bool
  closedConn : Bool
  deriving DecidableEq, Repr

/-- The managers that accept connections. -/
inductive Manager where
  | managerControl
  | managerClient
  deriving DecidableEq, Repr

/-- The connection that a manager creates.  Only `managerClient` was given a
close listener. -/
def Manager.accept (manager : Manager) : Link where
  online := true
  ssl := true
  closedConn := manager = .managerClient

/-- The link is open, and its closing is listened to. -/
def Link.listened (link : Link) : Bool :=
  link.online && link.ssl && link.closedConn

/-- `TCPConnectionSecurity::close(true)`, and whether it calls the listener.
The loop around `SSL_shutdown` ends with its first answer other than 0. -/
def TCPConnectionSecurity.close (link : Link) : Link × Bool :=
  if link.online then
    if link.ssl then ({ link with online := false, ssl := false }, link.closedConn)
    else ({ link with online := false }, false)
  else ({ link with ssl := false }, false)

theorem TCPConnectionSecurity.close_listened (link : Link) :
    (TCPConnectionSecurity.close link).2 = link.listened := by
  rcases link with ⟨online, ssl, closedConn⟩
  cases online <;> cases ssl <;> rfl

/-- The work of a thread between taking `loginMutex` and giving it back. -/
inductive Work where
  | session (event : Event)
  | sendAnswer (c : Connection)

structure Server where
  login : Login
  links : Connection → Option Link
  threads : Threads Connection Work

namespace Server

def initial : Server where
  login := Login.initializeLogin
  links := fun _ => none
  threads := Threads.idle

end Server

/-- The actions of a handler that runs under `loginMutex`. -/
def underMutex (event : Event) : List (Action Work) :=
  [.lock, .work (.session event), .unlock]

/-- Answers on some connections, one after the other. -/
def answersOn (connections : List Connection) : List (Action Work) :=
  connections.map fun c => .work (.sendAnswer c)

/-- What can happen next: a connection is accepted, the thread of a connection
receives a message or the end of its stream, or a thread does its next action.
If that action is an answer, `failure` is the byte whose write fails, if one
does. -/
inductive Move where
  | accept (c : Connection) (manager : Manager)
  | loginRequest (c : Connection) (user : String) (valid : Bool) (unset : Uninitialised)
  | logoutRequest (c : Connection) (clientId token : Int)
  | controlConnection (c : Connection)
  | streamEnds (c : Connection)
  | advance (thread : Connection) (failure : Option Nat)

namespace Server

variable (server : Server)

/-- The thread of an accepted connection waits for the next message.  Its loop
ends when the link is not online. -/
def receiving (c : Connection) : Bool :=
  match server.links c with
  | none => false
  | some link => link.online && (server.threads.program c).isEmpty

/-- A thread goes on with the given program. -/
def continueWith (thread : Connection) (program : List (Action Work)) : Server :=
  { server with threads := server.threads.setProgram thread program }

/-- The thread of a connection enters a handler. -/
def enter (c : Connection) (event : Event) : Option Server :=
  if server.receiving c then some (server.continueWith c (underMutex event)) else none

/-- A thread closes a connection, with `rest` left to do.  The listener runs on
the same thread. -/
def close (thread c : Connection) (rest : List (Action Work)) : Option Server :=
  (server.links c).map fun link =>
    let closed := TCPConnectionSecurity.close link
    let pushed := if closed.2 then underMutex (.connectionClosed c) else []
    let links := fun other => if other = c then some closed.1 else server.links other
    { server with links := links }.continueWith thread (pushed ++ rest)

/-- The next action of a thread.  An answer is written byte by byte, and the
first byte that fails ends it.  Without an SSL session it is undefined. -/
def advance (thread : Connection) (failure : Option Nat) : Option Server :=
  match server.threads.program thread with
  | [] => none
  | .lock :: rest => (server.threads.acquire thread rest).map fun threads =>
      { server with threads := threads }
  | .unlock :: rest => some { server with threads := server.threads.release thread rest }
  | .work (.session event) :: rest => (handle server.login event).map fun (login, sent) =>
      { server with login := login }.continueWith thread
        (answersOn (sent.map Sent.connection) ++ rest)
  | .work (.sendAnswer c) :: rest =>
      match server.links c with
      | none => none
      | some link =>
          if link.ssl then
            match failure with
            | none => some (server.continueWith thread rest)
            | some _ => server.close thread c rest
          else none

/-- One move.  `ControlConnectionRcvd::exec` takes no mutex. -/
def step (server : Server) : Move → Option Server
  | .accept c manager =>
      match server.links c with
      | some _ => none
      | none => some { server with
          links := fun other => if other = c then some manager.accept else server.links other }
  | .loginRequest c user valid unset => server.enter c (.loginRequest c user valid unset)
  | .logoutRequest c clientId token => server.enter c (.logoutRequest c clientId token)
  | .controlConnection c =>
      if server.receiving c then
        (handle server.login (.controlConnection c)).map fun (login, _) =>
          { server with login := login }
      else none
  | .streamEnds c => if server.receiving c then server.close c c [] else none
  | .advance thread failure => server.advance thread failure

/-- The connection is one that `SSL_write` can be called on. -/
def HasSession (server : Server) (c : Connection) : Prop :=
  ∃ link, server.links c = some link ∧ link.ssl = true

/-- The link of a connection after it has been closed. -/
def withClosed (server : Server) (c : Connection) (link : Link) : Server :=
  { server with links := fun other =>
      if other = c then some { link with online := false, ssl := false } else server.links other }

/-- What a thread may have left to do. -/
inductive Orderly : List (Action Work) → Prop where
  | idle : Orderly []
  | entering (event : Event) : Orderly (underMutex event)
  | session (event : Event) : Orderly [.work (.session event), .unlock]
  | answers (connections : List Connection) : Orderly (answersOn connections ++ [.unlock])

/-- The mutex is taken around one handler and its answers, and a link has a
session as long as it is online. -/
structure Ordered (server : Server) : Prop where
  disciplined : Disciplined server.threads
  orderly : ∀ thread, Orderly (server.threads.program thread)
  opened : ∀ c link, server.links c = some link → link.online = link.ssl

variable {server next : Server} {thread c : Connection} {move : Move}
  {rest : List (Action Work)} {event : Event} {failure : Option Nat}

theorem works_answersOn (connections : List Connection) : Works (answersOn connections) := by
  intro action member
  rcases List.mem_map.mp member with ⟨c, _, same⟩
  exact ⟨.sendAnswer c, same.symm⟩

theorem mem_answersOn_iff {connections : List Connection} :
    .work (.sendAnswer c) ∈ answersOn connections ↔ c ∈ connections := by
  constructor
  · intro member
    rcases List.mem_map.mp member with ⟨other, listed, same⟩
    cases same
    exact listed
  · exact fun member => List.mem_map_of_mem member

theorem outside_underMutex (event : Event) : Outside (underMutex event) := by
  refine .inr ⟨[.work (.session event), .unlock], rfl, [.work (.session event)], ?_, rfl⟩
  intro action member
  exact ⟨.session event, List.mem_singleton.mp member⟩

theorem orderly_lock (orderly : Orderly (.lock :: rest)) :
    ∃ event, rest = [.work (.session event), .unlock] := by
  generalize split : Action.lock :: rest = program at orderly
  cases orderly with
  | idle => cases split
  | entering event =>
      cases split
      exact ⟨event, rfl⟩
  | session event => cases split
  | answers connections => cases connections <;> cases split

theorem orderly_session (orderly : Orderly (.work (.session event) :: rest)) :
    rest = [.unlock] := by
  generalize split : Action.work (Work.session event) :: rest = program at orderly
  cases orderly with
  | idle => cases split
  | entering event => cases split
  | session event =>
      cases split
      rfl
  | answers connections => cases connections <;> cases split

theorem orderly_sendAnswer (orderly : Orderly (.work (.sendAnswer c) :: rest)) :
    ∃ connections, rest = answersOn connections ++ [.unlock] := by
  generalize split : Action.work (Work.sendAnswer c) :: rest = program at orderly
  cases orderly with
  | idle => cases split
  | entering event => cases split
  | session event => cases split
  | answers connections =>
      cases connections with
      | nil => cases split
      | cons other connections =>
          cases split
          exact ⟨connections, rfl⟩

theorem receiving_iff : server.receiving c = true ↔
    ∃ link, server.links c = some link ∧ link.online = true ∧ server.threads.program c = [] := by
  unfold receiving
  cases server.links c with
  | none => simp only [Bool.false_eq_true, reduceCtorEq, false_and, exists_false]
  | some link =>
      simp only [Bool.and_eq_true, List.isEmpty_iff, Option.some.injEq, exists_eq_left']

namespace Ordered

theorem initial : Ordered Server.initial where
  disciplined := Disciplined.idle
  orderly := fun _ => .idle
  opened := by
    intro c link accepted
    cases accepted

theorem setProgram (ordered : Ordered server) {program : List (Action Work)}
    (orderly : Orderly program) (other : Connection) :
    Orderly ((server.threads.setProgram thread program).program other) := by
  by_cases same : other = thread
  · rw [same, program_setProgram_self]
    exact orderly
  · rw [program_setProgram_of_ne same]
    exact ordered.orderly other

theorem enter (ordered : Ordered server) (entered : server.enter c event = some next) :
    Ordered next := by
  unfold Server.enter at entered
  split at entered
  · next waits =>
    cases entered
    rcases receiving_iff.mp waits with ⟨_, _, _, idle⟩
    exact ⟨ordered.disciplined.start idle (outside_underMutex event),
      ordered.setProgram (.entering event), ordered.opened⟩
  · cases entered

/-- A connection that is closed has no session, and a listener may have been
called. -/
theorem close_eq {link : Link} (ordered : Ordered server)
    (accepted : server.links c = some link) :
    server.close thread c rest = some ((server.withClosed c link).continueWith thread
      ((if link.listened then underMutex (.connectionClosed c) else []) ++ rest)) := by
  have same := ordered.opened c link accepted
  simp only [close, accepted, Option.map_some, TCPConnectionSecurity.close_listened]
  rcases link with ⟨online, ssl, closedConn⟩
  cases same
  cases online <;> rfl

theorem opened_withClosed (ordered : Ordered server) (c : Connection) (link : Link)
    (other : Connection) (left : Link)
    (found : (server.withClosed c link).links other = some left) : left.online = left.ssl := by
  change (if other = c then some { link with online := false, ssl := false }
    else server.links other) = some left at found
  split at found
  · cases found
    rfl
  · exact ordered.opened other left found

/-- The thread of a connection that closes it has nothing else to do, so it
may take the mutex. -/
theorem streamEnds (ordered : Ordered server)
    (stepped : step server (.streamEnds c) = some next) : Ordered next := by
  simp only [step] at stepped
  split at stepped
  · next waits =>
    rcases receiving_iff.mp waits with ⟨link, accepted, _, idle⟩
    rw [ordered.close_eq accepted, List.append_nil] at stepped
    cases stepped
    cases link.listened with
    | true => exact ⟨ordered.disciplined.start idle (outside_underMutex _),
        ordered.setProgram (.entering _), ordered.opened_withClosed c link⟩
    | false => exact ⟨ordered.disciplined.start idle (.inl rfl),
        ordered.setProgram .idle, ordered.opened_withClosed c link⟩
  · cases stepped

end Ordered

theorem program_continueWith (server : Server) (thread : Connection)
    (program : List (Action Work)) :
    (server.continueWith thread program).threads.program thread = program :=
  program_setProgram_self

/-- The move is no failing write to an open connection whose closing is
listened to. -/
def Unheard (server : Server) (move : Move) : Prop :=
  ∀ thread byte c rest link, move = .advance thread (some byte) →
    server.threads.program thread = .work (.sendAnswer c) :: rest →
    server.links c = some link → link.listened = false

/-- What the next action of a thread can do. -/
inductive Advanced (server : Server) (thread : Connection) (failure : Option Nat) :
    Server → Prop where
  | lock (event : Event) (asks : server.threads.program thread = underMutex event)
      (free : server.threads.holder = none) :
      Advanced server thread failure { server with
        threads := { server.threads.setProgram thread [.work (.session event), .unlock] with
          holder := some thread } }
  | unlock (gives : server.threads.program thread = [.unlock]) :
      Advanced server thread failure { server with threads := server.threads.release thread [] }
  | session (event : Event) (login : Login) (sent : List Sent)
      (runs : server.threads.program thread = [.work (.session event), .unlock])
      (handled : handle server.login event = some (login, sent)) :
      Advanced server thread failure ({ server with login := login }.continueWith thread
        (answersOn (sent.map Sent.connection) ++ [Action.unlock]))
  | answer (c : Connection) (connections : List Connection)
      (answers : server.threads.program thread =
        .work (.sendAnswer c) :: (answersOn connections ++ [.unlock]))
      (session : server.HasSession c) (written : failure = none) :
      Advanced server thread failure
        (server.continueWith thread (answersOn connections ++ [.unlock]))
  | failedAnswer (c : Connection) (connections : List Connection) (link : Link) (byte : Nat)
      (answers : server.threads.program thread =
        .work (.sendAnswer c) :: (answersOn connections ++ [.unlock]))
      (accepted : server.links c = some link) (session : link.ssl = true)
      (failed : failure = some byte) :
      Advanced server thread failure ((server.withClosed c link).continueWith thread
        ((if link.listened then underMutex (.connectionClosed c) else []) ++
          (answersOn connections ++ [.unlock])))

theorem Ordered.advanced_iff (ordered : Ordered server) :
    server.advance thread failure = some next ↔ Advanced server thread failure next := by
  constructor
  · intro advanced
    have orderly := ordered.orderly thread
    unfold advance at advanced
    split at advanced
    · cases advanced
    · next rest asks =>
      rw [asks] at orderly
      rcases orderly_lock orderly with ⟨event, rfl⟩
      rcases Option.map_eq_some_iff.mp advanced with ⟨threads, taken, rfl⟩
      unfold acquire at taken
      split at taken
      · next free =>
        cases taken
        exact .lock event asks free
      · cases taken
    · next rest gives =>
      cases advanced
      have held := ordered.disciplined.holder_of_unlock gives
      have nothing : rest = [] := inside_unlock (gives ▸ ordered.disciplined.inside thread held)
      subst nothing
      exact .unlock gives
    · next event rest runs =>
      rw [runs] at orderly
      have last := orderly_session orderly
      subst last
      rcases Option.map_eq_some_iff.mp advanced with ⟨⟨login, sent⟩, handled, rfl⟩
      exact .session event login sent runs handled
    · next c rest answers =>
      rw [answers] at orderly
      rcases orderly_sendAnswer orderly with ⟨connections, rfl⟩
      split at advanced
      · cases advanced
      · next link accepted =>
        split at advanced
        · next session =>
          cases failure with
          | none =>
              cases advanced
              exact .answer c connections answers ⟨link, accepted, session⟩ rfl
          | some byte =>
              simp only [ordered.close_eq accepted] at advanced
              cases advanced
              exact .failedAnswer c connections link byte answers accepted session rfl
        · cases advanced
  · intro advanced
    unfold advance
    cases advanced with
    | lock event asks free =>
        rw [asks]
        simp only [underMutex, acquire_of_free free, Option.map_some]
    | unlock gives => rw [gives]
    | session event login sent runs handled =>
        rw [runs]
        simp only [handled, Option.map_some]
    | answer c connections answers session written =>
        rcases session with ⟨link, accepted, hasSession⟩
        rw [answers, written]
        simp only [accepted, hasSession, if_true]
    | failedAnswer c connections link byte answers accepted session failed =>
        rw [answers, failed]
        simp only [accepted, session, if_true, ordered.close_eq accepted]

/-- No action but a failing write to a listened link breaks the order. -/
theorem Ordered.advanced (ordered : Ordered server)
    (unheard : Unheard server (.advance thread failure))
    (advanced : Advanced server thread failure next) : Ordered next := by
  cases advanced with
  | lock event asks free =>
      exact ⟨ordered.disciplined.acquire asks (acquire_of_free free),
        ordered.setProgram (.session event), ordered.opened⟩
  | unlock gives =>
      exact ⟨ordered.disciplined.release gives, ordered.setProgram .idle, ordered.opened⟩
  | session event login sent runs handled =>
      exact ⟨ordered.disciplined.work runs (works_answersOn _), ordered.setProgram (.answers _),
        ordered.opened⟩
  | answer c connections answers session written =>
      have left := ordered.disciplined.work answers works_nil
      exact ⟨left, ordered.setProgram (.answers _), ordered.opened⟩
  | failedAnswer c connections link byte answers accepted session failed =>
      have silent := unheard thread byte c _ link (congrArg _ failed) answers accepted
      rw [silent]
      have left := ordered.disciplined.work answers works_nil
      exact ⟨left, ordered.setProgram (.answers _), ordered.opened_withClosed c link⟩

theorem Ordered.step (ordered : Ordered server) (unheard : Unheard server move)
    (stepped : Server.step server move = some next) : Ordered next := by
  cases move with
  | accept c manager =>
      simp only [Server.step] at stepped
      split at stepped
      · cases stepped
      · cases stepped
        refine ⟨ordered.disciplined, ordered.orderly, fun other link found => ?_⟩
        change (if other = c then some manager.accept else server.links other) = some link at found
        split at found
        · cases found
          rfl
        · exact ordered.opened other link found
  | loginRequest c user valid unset => exact ordered.enter stepped
  | logoutRequest c clientId token => exact ordered.enter stepped
  | controlConnection c =>
      simp only [Server.step] at stepped
      split at stepped
      · rcases Option.map_eq_some_iff.mp stepped with ⟨⟨login, sent⟩, handled, rfl⟩
        exact ⟨ordered.disciplined, ordered.orderly, ordered.opened⟩
      · cases stepped
  | streamEnds c => exact ordered.streamEnds stepped
  | advance thread failure => exact ordered.advanced unheard (ordered.advanced_iff.mp stepped)

end Server

end LoginServer
end Pxc
