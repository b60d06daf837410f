import Mathlib.Data.List.Nodup
import Mathlib.Tactic.Common
import Pxc.General.Runs

namespace Pxc
namespace Messaging

open General

/-!
# The listener of a secure connection

A `TCPConnectionSecurity` goes online when `connect` succeeds, which also
starts a listener thread unless `tListen` already points to one.  The listener
runs as long as the link is online.  Whoever notices a failure closes the
link: a user of the connection by `close(false)`, which joins the listener and
clears `tListen`, and a thread that must not wait for the listener by
`close(true)`, which leaves `tListen` as it is.

The events below are taken one at a time.  A listener is known by the online
period it was started for, that is, by the number of times the link had gone
online.  The outcome of each socket, TLS and certificate step is free.  The
listener of the closing of the link is not part of this.  It is assumed of
the system that a thread which is joined does end, and that `SSL_shutdown`
gets to its end.
-/

/-- The fields of a connection, the listener threads that are running, and the
number of times that the link has gone online.  `ssl` says that the pointer is
not null. -/
structure Link where
  online : Bool
  ssl : Bool
  tListen : Option Nat
  running : List Nat
  period : Nat
  deriving DecidableEq, Repr

/-- The thread that makes a call. -/
inductive Caller where
  | user
  | listener (thread : Nat)
  deriving DecidableEq, Repr

/-- How far a call of `connect` gets. -/
inductive Outcome where
  | socketFails
  | tlsFails
  | certificateFails
  | succeeds
  deriving DecidableEq, Repr

/-- What can happen to a connection.  A peer that closes is noticed by a read
or a write that fails. -/
inductive LinkEvent where
  | connect (outcome : Outcome)
  | readFails (thread : Nat)
  | leavesLoop (thread : Nat)
  | sendFails (caller : Caller)
  | sendAnswerFails (caller : Caller)
  | close (caller : Caller)
  deriving DecidableEq, Repr

/-- What the constructors that are given no connection leave. -/
def constructed : Link :=
  ⟨false, false, none, [], 0⟩

/-- `TCPConnectionSecurity::receive`. -/
def Link.receive (link : Link) : Link :=
  match link.tListen with
  | none =>
      { link with tListen := some link.period, running := link.running ++ [link.period] }
  | some _ => link

/-- `TCPConnectionSecurity::connect`. -/
def Link.connect (link : Link) : Outcome → Link
  | .socketFails => link
  | .tlsFails => { link with ssl := true }
  | .certificateFails => { link with ssl := true }
  | .succeeds =>
      let period := if link.online then link.period else link.period + 1
      { link with ssl := true, online := true, period }.receive

/-- The last statements of both branches of `close`.  A thread that joins
itself ends the program. -/
def Link.join (link : Link) (threadListen : Bool) (caller : Caller) : Option Link :=
  if threadListen then some link
  else
    match link.tListen with
    | none => some link
    | some thread =>
        if caller = .listener thread then none
        else some { link with tListen := none, running := link.running.erase thread }

/-- `TCPConnectionSecurity::close(threadListen)`. -/
def Link.close (link : Link) (threadListen : Bool) (caller : Caller) : Option Link :=
  if link.online then { link with online := false, ssl := false }.join threadListen caller
  else { link with ssl := false }.join threadListen caller

/-- A caller that is a listener is one that is running. -/
def Link.Calls (link : Link) : Caller → Prop
  | .user => True
  | .listener thread => thread ∈ link.running

instance (link : Link) (caller : Caller) : Decidable (link.Calls caller) := by
  cases caller <;> unfold Link.Calls <;> infer_instance

/-- One event.  It is undefined when it cannot happen, and when the program
has no defined behaviour at it. -/
def linkStep (link : Link) : LinkEvent → Option Link
  | .connect outcome => some (link.connect outcome)
  | .readFails thread =>
      if thread ∈ link.running then link.close true (.listener thread) else none
  | .leavesLoop thread =>
      if thread ∈ link.running ∧ link.online = false then
        some { link with running := link.running.erase thread }
      else none
  | .sendFails caller =>
      if link.Calls caller then
        if link.online then link.close false caller else some link
      else none
  | .sendAnswerFails caller =>
      if link.Calls caller ∧ link.ssl = true then link.close true caller else none
  | .close caller =>
      if link.Calls caller then link.close false caller else none

/-- An online link has one listener running, the one started for this online
period. -/
def Listened (link : Link) : Prop :=
  link.online = true → link.running = [link.period]

/-- The event is no success of `connect` on an offline link whose listener
has not been joined. -/
def FindsNoListener (link : Link) (event : LinkEvent) : Prop :=
  event = .connect .succeeds → link.online = false → link.tListen = none

/-- What is true of a link that has been listened to whenever it was online.
Listeners that run are those that `tListen` points to. -/
structure Attended (link : Link) : Prop where
  listened : Listened link
  current : link.online = true → link.tListen = some link.period
  known : ∀ thread ∈ link.running, link.tListen = some thread
  once : link.running.Nodup
  past : ∀ thread, link.tListen = some thread → thread ≤ link.period

theorem attended_constructed : Attended constructed where
  listened := by
    intro online
    cases online
  current := by
    intro online
    cases online
  known := by
    intro thread member
    cases member
  once := List.nodup_nil
  past := by
    intro thread listening
    cases listening

/-- A link that is offline is attended when its threads are. -/
theorem Attended.offline {link next : Link} (attended : Attended link)
    (isOffline : next.online = false) (threads : next.running.Sublist link.running)
    (known : ∀ thread ∈ next.running, next.tListen = some thread)
    (past : ∀ thread, next.tListen = some thread → link.tListen = some thread)
    (period : next.period = link.period) : Attended next := by
  have vacuous : ∀ {P : Prop}, next.online = true → P := by
    intro P online
    rw [isOffline] at online
    cases online
  refine ⟨vacuous, vacuous, known, threads.nodup attended.once, ?_⟩
  intro thread listening
  rw [period]
  exact attended.past thread (past thread listening)

/-- Both branches of `close` take the link offline before they join. -/
theorem Link.close_eq (link : Link) (threadListen : Bool) (caller : Caller) :
    link.close threadListen caller =
      { link with online := false, ssl := false }.join threadListen caller := by
  rw [Link.close]
  by_cases online : link.online = true
  · rw [if_pos online]
  · rw [if_neg online]
    rw [eq_false_of_ne_true online]

/-- What `close` leaves: the link is offline and has no session, and the listener
has been joined if the caller waits for one, which is not itself. -/
theorem Link.close_cases {link next : Link} {threadListen : Bool} {caller : Caller}
    (closed : link.close threadListen caller = some next) :
    next = { link with online := false, ssl := false } ∨
      ∃ thread, link.tListen = some thread ∧ caller ≠ .listener thread ∧
        next = ⟨false, false, none, link.running.erase thread, link.period⟩ := by
  rw [Link.close_eq, Link.join] at closed
  split at closed
  · exact Or.inl (Option.some.inj closed).symm
  · split at closed
    · exact Or.inl (Option.some.inj closed).symm
    · next thread listening =>
      split at closed
      · cases closed
      · next other => exact Or.inr ⟨thread, listening, other, (Option.some.inj closed).symm⟩

theorem Link.offline_of_close {link next : Link} {threadListen : Bool} {caller : Caller}
    (closed : link.close threadListen caller = some next) : next.online = false := by
  rcases Link.close_cases closed with rfl | ⟨_, _, _, rfl⟩
  · rfl
  · rfl

theorem Attended.close {link next : Link} (attended : Attended link) {threadListen : Bool}
    {caller : Caller} (closed : link.close threadListen caller = some next) : Attended next := by
  rcases Link.close_cases closed with rfl | ⟨thread, listening, _, rfl⟩
  · exact attended.offline rfl (List.Sublist.refl _) attended.known (fun _ => id) rfl
  · refine attended.offline rfl List.erase_sublist ?_ ?_ rfl
    · intro other member
      have among := List.mem_of_mem_erase member
      have same : thread = other :=
        Option.some.inj (listening.symm.trans (attended.known other among))
      subst same
      exact absurd member (attended.once.not_mem_erase)
    · intro other impossible
      cases impossible

/-- Everything that an event can do to a link. -/
theorem linkStep_cases {link next : Link} {event : LinkEvent}
    (stepped : linkStep link event = some next) :
    (∃ outcome, event = .connect outcome ∧ next = link.connect outcome) ∨
      (∃ threadListen caller, link.close threadListen caller = some next) ∨
      (∃ thread, event = .leavesLoop thread ∧ link.online = false ∧
        next = { link with running := link.running.erase thread }) ∨
      (∃ caller, event = .sendFails caller ∧ link.online = false ∧ next = link) := by
  cases event with
  | connect outcome => exact Or.inl ⟨outcome, rfl, (Option.some.inj stepped).symm⟩
  | readFails thread =>
      simp only [linkStep] at stepped
      split at stepped
      · exact Or.inr (Or.inl ⟨true, .listener thread, stepped⟩)
      · cases stepped
  | leavesLoop thread =>
      simp only [linkStep] at stepped
      split at stepped
      · next leaves =>
        exact Or.inr (Or.inr (Or.inl ⟨thread, rfl, leaves.2, (Option.some.inj stepped).symm⟩))
      · cases stepped
  | sendFails caller =>
      simp only [linkStep] at stepped
      split at stepped
      · split at stepped
        · exact Or.inr (Or.inl ⟨false, caller, stepped⟩)
        · next notOnline =>
          have offline := eq_false_of_ne_true notOnline
          exact Or.inr (Or.inr (Or.inr ⟨caller, rfl, offline, (Option.some.inj stepped).symm⟩))
      · cases stepped
  | sendAnswerFails caller =>
      simp only [linkStep] at stepped
      split at stepped
      · exact Or.inr (Or.inl ⟨true, caller, stepped⟩)
      · cases stepped
  | close caller =>
      simp only [linkStep] at stepped
      split at stepped
      · exact Or.inr (Or.inl ⟨false, caller, stepped⟩)
      · cases stepped

/-- A connection of a link that is online keeps its listener. -/
theorem Attended.connect_online {link : Link} (attended : Attended link)
    (online : link.online = true) : Attended (link.connect .succeeds) := by
  have kept : link.connect .succeeds = { link with ssl := true } := by
    simp only [Link.connect, online, if_true, Link.receive, attended.current online]
  rw [kept]
  exact ⟨attended.listened, attended.current, attended.known, attended.once, attended.past⟩

/-- Once the listener of the last period has been joined, a new one is made. -/
theorem Attended.connect_joined {link : Link} (attended : Attended link)
    (offline : link.online = false) (joined : link.tListen = none) :
    Attended (link.connect .succeeds) := by
  have nobody : link.running = [] := by
    rw [List.eq_nil_iff_forall_not_mem]
    intro thread member
    have known := attended.known thread member
    rw [joined] at known
    cases known
  have begun : link.connect .succeeds =
      ⟨true, true, some (link.period + 1), [link.period + 1], link.period + 1⟩ := by
    simp only [Link.connect, offline, Bool.false_eq_true, if_false, Link.receive, joined, nobody]
    rfl
  rw [begun]
  refine ⟨fun _ => rfl, fun _ => rfl, ?_, List.nodup_singleton _, ?_⟩
  · intro thread member
    rw [List.mem_singleton.mp member]
  · intro thread equal
    cases equal
    exact Nat.le_refl _

/-- As long as the listener of the last period has not been joined, no other
one is made. -/
theorem Attended.connect_unjoined {link : Link} (attended : Attended link)
    (offline : link.online = false) {thread : Nat} (unjoined : link.tListen = some thread) :
    ¬ Listened (link.connect .succeeds) := by
  have begun : link.connect .succeeds =
      ⟨true, true, some thread, link.running, link.period + 1⟩ := by
    simp only [Link.connect, offline, Bool.false_eq_true, if_false, Link.receive, unjoined]
  intro listened
  -- The listener of the last period is not the one of this period.
  rw [begun] at listened
  have running : link.running = [link.period + 1] := listened rfl
  have known := attended.known (link.period + 1) (by rw [running]; exact List.mem_cons_self)
  have past := attended.past _ known
  omega

/-- A successful `connect` gets its listener exactly when the link was online
already, or the listener of the last period has been joined. -/
theorem Attended.connect {link : Link} (attended : Attended link) :
    (Listened (link.connect .succeeds) ↔ (link.online = false → link.tListen = none)) ∧
      ((link.online = false → link.tListen = none) → Attended (link.connect .succeeds)) := by
  have joined : (link.online = false → link.tListen = none) →
      Attended (link.connect .succeeds) := by
    intro whenOffline
    by_cases online : link.online = true
    · exact attended.connect_online online
    · have offline := eq_false_of_ne_true online
      exact attended.connect_joined offline (whenOffline offline)
  refine ⟨⟨?_, fun whenOffline => (joined whenOffline).listened⟩, joined⟩
  intro listened offline
  cases listening : link.tListen with
  | none => rfl
  | some thread => exact absurd listened (attended.connect_unjoined offline listening)

/-- Every other event leaves an attended link attended. -/
theorem Attended.step {link next : Link} (attended : Attended link) {event : LinkEvent}
    (other : event ≠ .connect .succeeds) (stepped : linkStep link event = some next) :
    Attended next := by
  rcases linkStep_cases stepped with ⟨outcome, rfl, rfl⟩ | ⟨threadListen, caller, closed⟩ |
    ⟨thread, rfl, offline, rfl⟩ | ⟨caller, rfl, _, rfl⟩
  · have fields : ∀ ssl, Attended { link with ssl := ssl } := fun ssl =>
      ⟨attended.listened, attended.current, attended.known, attended.once, attended.past⟩
    cases outcome with
    | socketFails => exact attended
    | tlsFails => exact fields true
    | certificateFails => exact fields true
    | succeeds => exact absurd rfl other
  · exact attended.close closed
  · exact attended.offline offline List.erase_sublist
      (fun other member => attended.known other (List.mem_of_mem_erase member))
      (fun _ => id) rfl
  · exact attended

/-- Along every run, online links are listened to as long as each success of
`connect` on an offline link finds the listener joined. -/
theorem listened_iff (events : List LinkEvent) :
    AtEach linkStep (fun _ link event => ∀ next, linkStep link event = some next → Listened next)
        constructed events ↔
      AtEach linkStep (fun _ link event => FindsNoListener link event) constructed events := by
  refine atEach_iff (fun _ => True) (fun _ => Attended) (fun _ _ _ => trivial)
    attended_constructed ?_ ?_ trivial
  · intro before link event _ attended
    by_cases success : event = .connect .succeeds
    · subst success
      have exact := attended.connect.1
      constructor
      · intro listened _
        exact exact.mp (listened _ rfl)
      · intro finds next stepped
        cases stepped
        exact exact.mpr (finds rfl)
    · refine ⟨fun _ same => absurd same success, ?_⟩
      intro _ next stepped
      exact (attended.step success stepped).listened
  · intro before link event next _ attended finds stepped
    by_cases success : event = .connect .succeeds
    · subst success
      cases stepped
      exact attended.connect.2 (finds rfl)
    · exact attended.step success stepped

/-- The peer closes, and the connection is made again: nothing listens. -/
theorem listened_fails :
    ¬ ∀ events, AtEach linkStep
      (fun _ link event => ∀ next, linkStep link event = some next → Listened next)
      constructed events := by
  intro always
  have listened := always
    [.connect .succeeds, .readFails 1, .leavesLoop 1, .connect .succeeds]
    [.connect .succeeds, .readFails 1, .leavesLoop 1] (.connect .succeeds) [] _ rfl rfl _ rfl
  cases listened rfl

end Messaging
end Pxc
