import Mathlib.Tactic.Common
import Pxc.General.Runs

namespace Pxc
namespace Client

/-!
# Logging in at the client

`Client::login` sends the request and then waits, until `mIsOnLogin` has been
lowered or ten seconds have passed.  The answer of the login server and the
message of the router are executed by the listeners of the two connections
while it waits, in whatever order they come.  After the wait the game has to
be initialised before its loop is entered.

An attempt is a run of such events.  Each execution of a message is one event,
and so is each turn of the waiting loop, with what the clock says at that
turn.  Whether a connection to the router can be made, and whether the window
and the game can be initialised, is decided from outside.
-/

/-- The fields of `LoginRequestRcvd`. -/
structure LoginAnswer where
  mAnswerCode : Int
  mRouterIp : String
  mRouterPort : String
  mClientId : Int
  mToken : Int
  deriving DecidableEq, Repr

/-- The fields of `ConnectCLientReceived`. -/
structure ConnectClient where
  mIdClient : Int
  mZone : Int
  deriving DecidableEq, Repr

/-- What becomes of an attempt: the wait is over because of the time or of a
refusal, there is no game that can be initialised, or the game's loop is
entered. -/
inductive Ending where
  | noLoginServer
  | timeout
  | badLogOn
  | unableToInit
  | playing
  deriving DecidableEq, Repr

/-- What `login` returns.  The game's loop comes before the return. -/
def Ending.returns : Ending → Bool
  | .playing => true
  | _ => false

end Client

/-- The data of the singleton `Client` that a login uses.  A game is known by
the id of its zone, and the connections to the router by their addresses.
`sent` lists the messages sent to the router. -/
structure Client where
  mGame : Option Int
  mUserId : Int
  mToken : Int
  mLogin : Bool
  mRouter : Option (String × String)
  mIsOnLogin : Bool
  mLoggedIn : Bool
  mBadLogOn : Bool
  mInit : Bool
  sent : List (Int × Int)
  deriving DecidableEq, Repr

namespace Client

open General

/-- The constructor, and a connection to the login server. -/
def atStart (mLogin : Bool) : Client where
  mGame := none
  mUserId := -1
  mToken := -1
  mLogin := mLogin
  mRouter := none
  mIsOnLogin := false
  mLoggedIn := false
  mBadLogOn := false
  mInit := false
  sent := []

def correctLogin (client : Client) (right : Bool) : Client :=
  { client with mBadLogOn := !right }

def isOnLogin (client : Client) (b : Bool) : Client :=
  { client with mIsOnLogin := b }

/-- `Client::setZone`. -/
def setZone (client : Client) (idZone : Int) : Client :=
  match client.mGame with
  | none => client
  | some _ => { client with mGame := some idZone }

/-- `LoginRequestRcvd::exec`.  `connects` is the result of the connection to
the router, which takes the place of an older one. -/
def execLoginAnswer (client : Client) (answer : LoginAnswer) (connects : Bool) : Client :=
  if answer.mAnswerCode ≠ 0 then (client.correctLogin false).isOnLogin false
  else
    let known := { client.correctLogin true with
      mUserId := answer.mClientId, mToken := answer.mToken }
    if connects then
      { known with
        mRouter := some (answer.mRouterIp, answer.mRouterPort)
        sent := known.sent ++ [(answer.mClientId, answer.mToken)] }
    else known.isOnLogin false

/-- `ConnectCLientReceived::exec`. -/
def execConnectClient (client : Client) (message : ConnectClient) : Client :=
  if client.mUserId = message.mIdClient ∧ client.mIsOnLogin = true then
    (client.setZone message.mZone).isOnLogin false
  else client

/-- `Client::init`, with the results of the initialisations of the window and
of the game. -/
def init (client : Client) (window game : Bool) : Bool × Client :=
  match client.mGame with
  | none => (false, client)
  | some _ => if window then (game, { client with mInit := true }) else (false, client)

/-- What happens while `login` waits: a message is executed, or the loop looks
at the flag and at the clock. -/
inductive LoginEvent where
  | answer (message : LoginAnswer) (connects : Bool)
  | connectClient (message : ConnectClient)
  | turn (late window game : Bool)
  deriving DecidableEq, Repr

/-- A call of `login` under way. -/
structure Attempt where
  client : Client
  ending : Option Ending
  deriving DecidableEq, Repr

/-- `Client::login` up to its waiting loop. -/
def login (client : Client) : Attempt :=
  if client.mLogin then ⟨client.isOnLogin true, none⟩ else ⟨client, some .noLoginServer⟩

/-- One turn of the waiting loop, and what comes after it. -/
def turn (client : Client) (late window game : Bool) : Attempt :=
  if client.mIsOnLogin then
    if late then ⟨client.isOnLogin false, some .timeout⟩ else ⟨client, none⟩
  else if client.mBadLogOn then ⟨client, some .badLogOn⟩
  else
    match client.init window game with
    | (true, client) => ⟨{ client with mLoggedIn := true }, some .playing⟩
    | (false, client) => ⟨client, some .unableToInit⟩

/-- One event of an attempt that has not ended. -/
def loginStep (attempt : Attempt) (event : LoginEvent) : Option Attempt :=
  match attempt.ending with
  | some _ => none
  | none =>
      match event with
      | .answer message connects => some ⟨attempt.client.execLoginAnswer message connects, none⟩
      | .connectClient message => some ⟨attempt.client.execConnectClient message, none⟩
      | .turn late window game => some (attempt.client.turn late window game)

/-- A positive answer whose router connection succeeds is followed by the
message of the router about this client, while no turn has found the time to
be over. -/
def Completes (events : List LoginEvent) (answer : LoginAnswer) (zone : Int) : Prop :=
  answer.mAnswerCode = 0 ∧
    ∃ before between after, events = before ++ .answer answer true :: between ++
      .connectClient ⟨answer.mClientId, zone⟩ :: after ∧
    ∀ window game, LoginEvent.turn true window game ∉ before ++ between

/-- What a finished attempt should be: the game of the zone is there to be
initialised, for the client and the token of the answer, if the exchange was
completed, and otherwise `login` returns false. -/
structure HandshakeHolds (events : List LoginEvent) (client : Client) (ending : Ending) :
    Prop where
  completed : ∀ answer zone, Completes events answer zone →
    client.mGame = some zone ∧ client.mUserId = answer.mClientId ∧
      client.mToken = answer.mToken ∧ (ending = .playing ∨ ending = .unableToInit)
  otherwise : (∀ answer zone, ¬ Completes events answer zone) → ending.returns = false

/-- No event makes a game, and without one the loop is not entered. -/
theorem loginStep_gameless {attempt next : Attempt} {event : LoginEvent}
    (gameless : attempt.client.mGame = none) (stepped : loginStep attempt event = some next) :
    next.client.mGame = none ∧ ∀ ending, next.ending = some ending → ending.returns = false := by
  unfold loginStep at stepped
  split at stepped
  · cases stepped
  · cases event with
    | answer message connects =>
        cases stepped
        refine ⟨?_, fun _ impossible => absurd impossible (Option.some_ne_none _).symm⟩
        simp only [execLoginAnswer]
        split
        · exact gameless
        · split <;> exact gameless
    | connectClient message =>
        cases stepped
        refine ⟨?_, fun _ impossible => absurd impossible (Option.some_ne_none _).symm⟩
        simp only [execConnectClient, setZone, gameless]
        split <;> exact gameless
    | turn late window game =>
        cases stepped
        simp only [turn, init, gameless]
        split
        · split
          · refine ⟨gameless, ?_⟩
            intro ending same
            cases same
            rfl
          · exact ⟨gameless, fun _ impossible => absurd impossible (Option.some_ne_none _).symm⟩
        · split
          · refine ⟨gameless, ?_⟩
            intro ending same
            cases same
            rfl
          · refine ⟨gameless, ?_⟩
            intro ending same
            cases same
            rfl

/-- A turn that finds the time to be over ends the attempt. -/
theorem late_turn_ends (client : Client) (window game : Bool) :
    ∃ ending, (client.turn true window game).ending = some ending := by
  simp only [turn, if_true]
  split
  · exact ⟨_, rfl⟩
  · split
    · exact ⟨_, rfl⟩
    · split <;> exact ⟨_, rfl⟩

/-- However an attempt goes, it leaves no game, and `login` returns false. -/
theorem run_gameless {events : List LoginEvent} {attempt : Attempt}
    (ran : run loginStep (login (atStart true)) events = some attempt) :
    attempt.client.mGame = none ∧
      ∀ ending, attempt.ending = some ending → ending.returns = false := by
  refine run_invariant_of_step (fun _ => True) (fun _ attempt => attempt.client.mGame = none ∧
    ∀ ending, attempt.ending = some ending → ending.returns = false) (fun _ _ _ => trivial)
    ⟨rfl, ?_⟩ ?_ trivial ran
  · intro ending impossible
    cases impossible
  · intro before attempt event next _ held stepped
    exact loginStep_gameless held.1 stepped

/-- An attempt goes as it should exactly when the exchange with the login
server and the router is not completed.  It ends at the latest with a turn
that finds the time to be over. -/
theorem handshakeHolds_iff {events : List LoginEvent} {attempt : Attempt}
    (ran : run loginStep (login (atStart true)) events = some attempt) :
    (∀ ending, attempt.ending = some ending →
      (HandshakeHolds events attempt.client ending ↔
        ∀ answer zone, ¬ Completes events answer zone)) ∧
      ∀ window game, ∃ ending, (attempt.client.turn true window game).ending = some ending := by
  rcases run_gameless ran with ⟨gameless, fails⟩
  refine ⟨?_, fun window game => late_turn_ends attempt.client window game⟩
  intro ending ended
  constructor
  · intro holds answer zone completes
    have game := (holds.completed answer zone completes).1
    rw [gameless] at game
    cases game
  · intro none
    exact ⟨fun answer zone completes => absurd completes (none answer zone),
      fun _ => fails ending ended⟩

/-- The login server refuses. -/
def refusal : LoginAnswer :=
  ⟨1, "", "", 0, 0⟩

theorem handshakeHolds_refusal :
    HandshakeHolds [.answer refusal true, .turn false true true]
      ((atStart true).execLoginAnswer refusal true) .badLogOn := by
  have ran : run loginStep (login (atStart true))
      [.answer refusal true, .turn false true true] =
        some ⟨(atStart true).execLoginAnswer refusal true, some .badLogOn⟩ := by decide
  apply ((handshakeHolds_iff ran).1 .badLogOn rfl).mpr
  rintro answer zone ⟨_, before, between, after, split, _⟩
  have completed : LoginEvent.connectClient ⟨answer.mClientId, zone⟩ ∈
      [LoginEvent.answer refusal true, .turn false true true] := by
    rw [split]
    simp only [List.mem_append, List.mem_cons, true_or, or_true]
  simp only [List.mem_cons, reduceCtorEq, List.not_mem_nil, or_self] at completed

/-- The login server accepts client 5. -/
def acceptance : LoginAnswer :=
  ⟨0, "127.0.0.1", "3456", 5, 7⟩

/-- Both messages come at once, and there is no game to initialise. -/
theorem handshakeHolds_fails :
    ¬ ∀ events attempt ending, run loginStep (login (atStart true)) events = some attempt →
      attempt.ending = some ending → HandshakeHolds events attempt.client ending := by
  intro always
  have holds := always
    [.answer acceptance true, .connectClient ⟨5, 3⟩, .turn false true true] _ _ rfl rfl
  have completes : Completes
      [.answer acceptance true, .connectClient ⟨5, 3⟩, .turn false true true] acceptance 3 :=
    ⟨rfl, [], [], [.turn false true true], rfl, fun _ _ => List.not_mem_nil⟩
  cases (holds.completed acceptance 3 completes).1

end Client
end Pxc
