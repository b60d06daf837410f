import Pxc.Messaging.WriteFailures

namespace Pxc
namespace Messaging

open General

/-!
# The notices of a closing link

Whoever closes a link that is online also tells the `ConnectionClosedListener`
that was set, from within the call of `close`.  The listener may call the
connection again from there, and these calls may close it and tell the
listener in their turn.  A call is given below with the calls that the
listener makes if it is told in the course of it.

What a call does to the link is kept together with a log of what is seen of
it: that it goes online, that it goes offline, and that the listener is told.
The log also lasts when the program does not, as when a thread joins itself or
waits for a mutex that it holds, or when the connection is destroyed and used
again.  It is assumed that `SSL_shutdown` does not return zero forever, so
that its loop tells the listener once.
-/

/-- What is seen of a link. -/
inductive Notice where
  | wentOnline
  | wentOffline
  | calledOnClose
  deriving DecidableEq, Repr

/-- What is seen in the course of a call, and the link after it. -/
structure Course where
  log : List Notice
  link : Option Link
  deriving DecidableEq, Repr

/-- One thing after the other, as long as the program goes on. -/
def Course.andThen (course : Course) (next : Link → Course) : Course :=
  match course.link with
  | none => course
  | some link => ⟨course.log ++ (next link).log, (next link).link⟩

/-- A call on a connection.  The calls inside are made by the listener, if it
is told. -/
inductive LinkCall where
  | connect (outcome : Outcome)
  | close (threadListen : Bool) (inside : List LinkCall)
  | sendFails (inside : List LinkCall)
  | sendAnswerFails (inside : List LinkCall)
  | destroy (inside : List LinkCall)

/-- `TCPConnectionSecurity::connect`. -/
def Link.connecting (link : Link) (outcome : Outcome) : Course :=
  ⟨if outcome = .succeeds ∧ link.online = false then [.wentOnline] else [],
    some (link.connect outcome)⟩

/-- `TCPConnectionSecurity::close(threadListen)`, with what `callOnClose`
does. -/
def Link.closing (link : Link) (threadListen : Bool) (caller : Caller)
    (callOnClose : Link → Course) : Course :=
  if link.online then
    if link.ssl then
      let told := callOnClose { link with online := false, ssl := false }
      ⟨.wentOffline :: .calledOnClose :: told.log,
        told.link.bind fun link => link.join threadListen caller⟩
    else ⟨[.wentOffline], { link with online := false }.join threadListen caller⟩
  else ⟨[], { link with ssl := false }.join threadListen caller⟩

mutual

/-- A call of this thread, which may hold `mSendMutex` already. -/
def LinkCall.make (caller : Caller) (sending : Bool) (link : Link) : LinkCall → Course
  | .connect outcome => link.connecting outcome
  | .close threadListen inside =>
      link.closing threadListen caller fun link => makeAll caller sending link inside
  | .sendFails inside =>
      if sending then ⟨[], none⟩
      else if link.online then
        link.closing false caller fun link => makeAll caller true link inside
      else ⟨[], some link⟩
  | .sendAnswerFails inside =>
      if sending then ⟨[], none⟩
      else if link.ssl then
        link.closing true caller fun link => makeAll caller true link inside
      else ⟨[], none⟩
  | .destroy inside =>
      ⟨(link.closing false caller fun link => makeAll caller sending link inside).log, none⟩

/-- Calls of this thread, one after the other. -/
def makeAll (caller : Caller) (sending : Bool) (link : Link) : List LinkCall → Course
  | [] => ⟨[], some link⟩
  | call :: rest =>
      (call.make caller sending link).andThen fun link => makeAll caller sending link rest

end

/-- What happens to a connection from outside of its listener. -/
inductive ConnectionEvent where
  | call (caller : Caller) (call : LinkCall)
  | readFails (thread : Nat) (inside : List LinkCall)
  | leavesLoop (thread : Nat)

/-- One event.  Nothing follows one that cannot happen. -/
def Link.observe (link : Link) : ConnectionEvent → Course
  | .call caller call => if link.Calls caller then call.make caller false link else ⟨[], none⟩
  | .readFails thread inside =>
      if thread ∈ link.running then
        link.closing true (.listener thread) fun link =>
          makeAll (.listener thread) false link inside
      else ⟨[], none⟩
  | .leavesLoop thread =>
      if thread ∈ link.running ∧ link.online = false then
        ⟨[], some { link with running := link.running.erase thread }⟩
      else ⟨[], none⟩

/-- What is seen in the course of these events. -/
def Link.observeAll (link : Link) : List ConnectionEvent → Course
  | [] => ⟨[], some link⟩
  | event :: rest => (link.observe event).andThen fun link => link.observeAll rest

/-- From one value of `online` to another, the link goes online and offline in
turn, and the listener is told as soon as it has gone offline, and only
then. -/
inductive ToldOnce : Bool → List Notice → Bool → Prop where
  | nothing (online : Bool) : ToldOnce online [] online
  | goesOnline {rest : List Notice} {final : Bool} (later : ToldOnce true rest final) :
      ToldOnce false (.wentOnline :: rest) final
  | goesOffline {rest : List Notice} {final : Bool} (later : ToldOnce false rest final) :
      ToldOnce true (.wentOffline :: .calledOnClose :: rest) final

theorem ToldOnce.append {online middle final : Bool} {first second : List Notice}
    (before : ToldOnce online first middle) (after : ToldOnce middle second final) :
    ToldOnce online (first ++ second) final := by
  induction before with
  | nothing online => exact after
  | goesOnline later inductionHypothesis => exact .goesOnline (inductionHypothesis after)
  | goesOffline later inductionHypothesis => exact .goesOffline (inductionHypothesis after)

theorem ToldOnce.count_eq {online final : Bool} {log : List Notice}
    (told : ToldOnce online log final) :
    log.count .calledOnClose = log.count .wentOffline := by
  induction told with
  | nothing online => rfl
  | goesOnline later inductionHypothesis =>
      rw [List.count_cons_of_ne (by decide), List.count_cons_of_ne (by decide)]
      exact inductionHypothesis
  | goesOffline later inductionHypothesis =>
      rw [List.count_cons_of_ne (by decide), List.count_cons_self, List.count_cons_self,
        List.count_cons_of_ne (by decide), inductionHypothesis]

/-- The listener is told once for each online period, from this link on, and
the link that is left is sound. -/
def Course.Tells (course : Course) (link : Link) : Prop :=
  ∃ final, ToldOnce link.online course.log final ∧
    ∀ next, course.link = some next → next.online = final ∧ next.HasSession

theorem tells_of_nothing (link : Link) : Course.Tells ⟨[], none⟩ link :=
  ⟨link.online, .nothing _, fun _ impossible => by cases impossible⟩

theorem tells_of_same {link next : Link} (same : next.online = link.online)
    (hasSession : next.HasSession) : Course.Tells ⟨[], some next⟩ link :=
  ⟨link.online, .nothing _, fun _ left => by cases left; exact ⟨same, hasSession⟩⟩

theorem Course.Tells.andThen {course : Course} {link : Link} {next : Link → Course}
    (tells : course.Tells link)
    (later : ∀ link : Link, link.HasSession → (next link).Tells link) :
    (course.andThen next).Tells link := by
  rcases course with ⟨log, none | middle⟩
  · exact tells
  · rcases tells with ⟨between, told, left⟩
    rcases left middle rfl with ⟨same, hasSession⟩
    rcases later middle hasSession with ⟨final, toldLater, leftLater⟩
    exact ⟨final, told.append (same ▸ toldLater), leftLater⟩

theorem Link.connecting_tells {link : Link} (hasSession : link.HasSession) (outcome : Outcome) :
    (link.connecting outcome).Tells link := by
  have kept := hasSession.connect outcome
  cases outcome with
  | socketFails => exact tells_of_same rfl kept
  | tlsFails => exact tells_of_same rfl kept
  | certificateFails => exact tells_of_same rfl kept
  | succeeds =>
      have online : (link.connect .succeeds).online = true := by
        rw [Link.connect, Link.receive]
        split <;> rfl
      cases was : link.online with
      | true =>
          have quiet : link.connecting .succeeds = ⟨[], some (link.connect .succeeds)⟩ := by
            simp only [Link.connecting, was, Bool.true_eq_false, and_false, if_false]
          rw [quiet]
          exact tells_of_same (online.trans was.symm) kept
      | false =>
          refine ⟨true, ?_, fun _ left => by cases left; exact ⟨online, kept⟩⟩
          simp only [Link.connecting, was, and_self, if_true]
          exact .goesOnline (.nothing true)

/-- Joining the listener leaves the flag and the session. -/
theorem Link.join_fields {link next : Link} {threadListen : Bool} {caller : Caller}
    (joined : link.join threadListen caller = some next) :
    next.online = link.online ∧ next.ssl = link.ssl := by
  rw [Link.join] at joined
  split at joined
  · cases joined
    exact ⟨rfl, rfl⟩
  · split at joined
    · cases joined
      exact ⟨rfl, rfl⟩
    · split at joined
      · cases joined
      · cases joined
        exact ⟨rfl, rfl⟩

/-- Closing tells the listener once if the link was online, and not at all
otherwise, provided that the calls of the listener do so too. -/
theorem Link.closing_tells {link : Link} (hasSession : link.HasSession) (threadListen : Bool)
    (caller : Caller) {callOnClose : Link → Course}
    (inside : ∀ link : Link, link.HasSession → (callOnClose link).Tells link) :
    (link.closing threadListen caller callOnClose).Tells link := by
  cases online : link.online with
  | true =>
      have session : link.ssl = true := hasSession online
      simp only [Link.closing, online, session, if_true]
      rcases inside { link with online := false, ssl := false } (fun never => by cases never) with
        ⟨final, told, left⟩
      refine ⟨final, online ▸ .goesOffline told, ?_⟩
      intro next joined
      rcases Option.bind_eq_some_iff.mp joined with ⟨middle, survived, last⟩
      rcases left middle survived with ⟨same, sound⟩
      rcases Link.join_fields last with ⟨sameOnline, sameSsl⟩
      refine ⟨sameOnline.trans same, fun isOnline => ?_⟩
      rw [sameSsl]
      exact sound (sameOnline ▸ isOnline)
  | false =>
      simp only [Link.closing, online, Bool.false_eq_true, if_false]
      refine ⟨false, online ▸ .nothing false, ?_⟩
      intro next joined
      rcases Link.join_fields joined with ⟨sameOnline, _⟩
      have offline : next.online = false := sameOnline
      refine ⟨offline, fun isOnline => ?_⟩
      rw [offline] at isOnline
      cases isOnline

mutual

/-- Every call tells the listener once for each online period. -/
theorem LinkCall.make_tells (caller : Caller) (call : LinkCall) (sending : Bool) (link : Link)
    (hasSession : link.HasSession) : (call.make caller sending link).Tells link := by
  cases call with
  | connect outcome =>
      rw [LinkCall.make]
      exact Link.connecting_tells hasSession outcome
  | close threadListen inside =>
      rw [LinkCall.make]
      exact Link.closing_tells hasSession threadListen caller
        fun link => makeAll_tells caller inside sending link
  | sendFails inside =>
      rw [LinkCall.make]
      split
      · exact tells_of_nothing link
      · split
        · exact Link.closing_tells hasSession false caller
            fun link => makeAll_tells caller inside true link
        · exact tells_of_same rfl hasSession
  | sendAnswerFails inside =>
      rw [LinkCall.make]
      split
      · exact tells_of_nothing link
      · split
        · exact Link.closing_tells hasSession true caller
            fun link => makeAll_tells caller inside true link
        · exact tells_of_nothing link
  | destroy inside =>
      rw [LinkCall.make]
      rcases Link.closing_tells hasSession false caller
        (fun link => makeAll_tells caller inside sending link) with ⟨final, told, _⟩
      exact ⟨final, told, fun _ impossible => by cases impossible⟩

theorem makeAll_tells (caller : Caller) (calls : List LinkCall) (sending : Bool) (link : Link)
    (hasSession : link.HasSession) : (makeAll caller sending link calls).Tells link := by
  cases calls with
  | nil =>
      rw [makeAll]
      exact tells_of_same rfl hasSession
  | cons call rest =>
      rw [makeAll]
      exact (call.make_tells caller sending link hasSession).andThen
        fun link => makeAll_tells caller rest sending link

end

theorem Link.observe_tells {link : Link} (hasSession : link.HasSession)
    (event : ConnectionEvent) : (link.observe event).Tells link := by
  cases event with
  | call caller call =>
      rw [Link.observe]
      split
      · exact call.make_tells caller false link hasSession
      · exact tells_of_nothing link
  | readFails thread inside =>
      rw [Link.observe]
      split
      · exact Link.closing_tells hasSession true (.listener thread)
          fun link => makeAll_tells (.listener thread) inside false link
      · exact tells_of_nothing link
  | leavesLoop thread =>
      rw [Link.observe]
      split
      · exact tells_of_same rfl hasSession
      · exact tells_of_nothing link

theorem Link.observeAll_tells {link : Link} (hasSession : link.HasSession)
    (events : List ConnectionEvent) : (link.observeAll events).Tells link := by
  induction events generalizing link with
  | nil => exact tells_of_same rfl hasSession
  | cons event rest inductionHypothesis =>
      rw [Link.observeAll]
      exact (Link.observe_tells hasSession event).andThen fun _ => inductionHypothesis

/-- Whatever happens to a connection after its constructor, the listener is
told exactly once each time the link goes offline, and at no other time. -/
theorem told_once_each_period (start : Link) (starts : start = constructed ∨ start = accepted)
    (events : List ConnectionEvent) :
    (∃ final, ToldOnce start.online (start.observeAll events).log final ∧
        ∀ link, (start.observeAll events).link = some link → link.online = final) ∧
      (start.observeAll events).log.count .calledOnClose =
        (start.observeAll events).log.count .wentOffline := by
  have begun : start.HasSession := hasSession_of_run starts (run_nil start)
  rcases Link.observeAll_tells begun events with ⟨final, told, left⟩
  exact ⟨⟨final, told, fun link survived => (left link survived).1⟩, told.count_eq⟩

/-- The listener connects again when it is told, and closes the new link. -/
def reconnecting : List ConnectionEvent :=
  [.call .user (.close false [.connect .succeeds, .close true []])]

theorem told_once_reconnecting :
    (∃ final, ToldOnce accepted.online (accepted.observeAll reconnecting).log final ∧
        ∀ link, (accepted.observeAll reconnecting).link = some link → link.online = final) ∧
      (accepted.observeAll reconnecting).log.count .calledOnClose =
        (accepted.observeAll reconnecting).log.count .wentOffline :=
  told_once_each_period accepted (Or.inr rfl) reconnecting

end Messaging
end Pxc
