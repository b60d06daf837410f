import Pxc.LoginServer.Locking

namespace Pxc
namespace LoginServer

open General Threads

/-!
# Whether the login server keeps serving

A thread that holds `loginMutex` gives it back when its handler finds its keys
and all its answers can be written.  It waits for itself when an answer fails
on an open link whose closing is listened to, and it never comes to the end
when its handler works on `end()` or an answer goes to a link without an SSL
session.  Which answers those are is known from the session data before the
handler has run.

The theorem at the end says for each move what has to hold of the state before
it, so that all waiting threads are served after it.
-/

namespace Server

/-- The state after some actions of one thread, all its bytes written. -/
def afterActions (server : Server) (thread : Connection) (count : Nat) : Option Server :=
  run step server (List.replicate count (.advance thread none))

/-- No thread waits for itself, the holder of the mutex gives it back by its
own actions, and a thread that asks for it gets it after those. -/
structure Serves (server : Server) : Prop where
  notSelfLocked : ¬ SelfLocked server.threads
  released : ∀ thread, server.threads.holder = some thread → ∃ count final,
    server.afterActions thread count = some final ∧ final.threads.holder = none
  granted : ∀ thread rest, server.threads.program thread = .lock :: rest →
    ∃ holder count final, server.afterActions holder count = some final ∧
      ∃ taken, final.advance thread none = some taken ∧ taken.threads.holder = some thread

/-- The program, which holds the mutex, has an answer on the connection to
give. -/
def OwesOn (login : Login) (program : List (Action Work)) (c : Connection) : Prop :=
  .work (.sendAnswer c) ∈ program ∨
    ∃ event rest, program = .work (.session event) :: rest ∧ Answers login c event

/-- The thread has an answer on the connection to give before it gives the
mutex back. -/
def Owes (server : Server) (thread c : Connection) : Prop :=
  OwesOn server.login (server.threads.program thread) c

/-- A write fails only on a connection whose closing nobody listens to, or
that is closed already, and it is the last answer on that connection.  When a
thread takes the mutex, its handler finds its keys, and every connection that
it answers on has an SSL session.  No stream ends on whose connection an answer
is still to be given. -/
structure Harmless (server : Server) (move : Move) : Prop where
  writes : ∀ thread byte c rest link, move = .advance thread (some byte) →
    server.threads.program thread = .work (.sendAnswer c) :: rest →
      server.links c = some link → link.listened = false ∧ .work (.sendAnswer c) ∉ rest
  takes : ∀ thread failure event rest, move = .advance thread failure →
    server.threads.program thread = .lock :: .work (.session event) :: rest →
      server.threads.holder = none → FindsKeys server.login event ∧
        ∀ c, Answers server.login c event → server.HasSession c
  ends : ∀ c, move = .streamEnds c → server.receiving c = true →
    ∀ thread, ¬ server.Owes thread c

/-- Nothing that the holder of the mutex has left to do is undefined. -/
structure Prepared (server : Server) : Prop where
  finds : ∀ thread event rest, server.threads.program thread = .work (.session event) :: rest →
    FindsKeys server.login event
  reaches : ∀ thread c, server.Owes thread c → server.HasSession c

variable {server next : Server} {thread c : Connection} {move : Move}
  {rest : List (Action Work)} {event : Event} {failure : Option Nat}

theorem not_owesOn_nil {login : Login} : ¬ OwesOn login [] c := by
  rintro (member | ⟨event, rest, runs, _⟩)
  · cases member
  · cases runs

theorem not_owesOn_underMutex {login : Login} : ¬ OwesOn login (underMutex event) c := by
  rintro (member | ⟨event, rest, runs, _⟩)
  · simp only [underMutex, List.mem_cons, reduceCtorEq, Action.work.injEq, List.not_mem_nil,
      or_false] at member
  · cases runs

theorem owesOn_session_iff {login : Login} :
    OwesOn login [.work (.session event), .unlock] c ↔ Answers login c event := by
  constructor
  · rintro (member | ⟨other, rest, runs, answers⟩)
    · simp only [List.mem_cons, Action.work.injEq, reduceCtorEq, List.not_mem_nil,
        or_self] at member
    · cases runs
      exact answers
  · exact fun answers => .inr ⟨event, _, rfl, answers⟩

theorem owesOn_answers_iff {login : Login} (connections : List Connection) :
    OwesOn login (answersOn connections ++ [.unlock]) c ↔ c ∈ connections := by
  constructor
  · rintro (member | ⟨other, rest, runs, _⟩)
    · rcases List.mem_append.mp member with answers | last
      · exact mem_answersOn_iff.mp answers
      · cases List.mem_singleton.mp last
    · cases connections <;> cases runs
  · exact fun member => .inl (List.mem_append_left _ (mem_answersOn_iff.mpr member))

theorem owesOn_cons_iff {login : Login} {connections : List Connection} {other : Connection} :
    OwesOn login (.work (.sendAnswer other) :: (answersOn connections ++ [.unlock])) c ↔
      c = other ∨ c ∈ connections :=
  (owesOn_answers_iff (other :: connections)).trans List.mem_cons

theorem Ordered.holder_of_owes (ordered : Ordered server) (owes : server.Owes thread c) :
    server.threads.holder = some thread := by
  by_contra free
  unfold Owes at owes
  rcases ordered.disciplined.outside thread free with nothing | ⟨rest, asks, _⟩
  · rw [nothing] at owes
    exact not_owesOn_nil owes
  · have orderly := ordered.orderly thread
    rw [asks] at orderly owes
    rcases orderly_lock orderly with ⟨event, rfl⟩
    exact not_owesOn_underMutex owes

theorem afterActions_succ {count : Nat} :
    server.afterActions thread (count + 1) =
      (server.advance thread none).bind fun next => next.afterActions thread count := by
  unfold afterActions
  rw [List.replicate_succ, run_cons]
  rfl

theorem afterActions_of_advance {count : Nat} {final : Server}
    (first : server.advance thread none = some next)
    (others : next.afterActions thread count = some final) :
    server.afterActions thread (count + 1) = some final := by
  rw [afterActions_succ, first]
  exact others

/-- The actions of one thread leave the programs of the others alone. -/
def KeepsOthers (server final : Server) (thread : Connection) : Prop :=
  ∀ other, other ≠ thread → final.threads.program other = server.threads.program other

theorem KeepsOthers.trans {middle final : Server} (early : KeepsOthers server middle thread)
    (late : KeepsOthers middle final thread) : KeepsOthers server final thread := by
  intro other different
  exact (late other different).trans (early other different)

theorem keepsOthers_setProgram {program : List (Action Work)}
    (sets : next.threads.program = (server.threads.setProgram thread program).program) :
    KeepsOthers server next thread := by
  intro other different
  rw [sets]
  exact program_setProgram_of_ne different

/-- The induction is on the answers that are left before the mutex is given
back. -/
theorem answers_finish (ordered : Ordered server) (connections : List Connection)
    (answers : server.threads.program thread = answersOn connections ++ [.unlock])
    (sessions : ∀ c ∈ connections, server.HasSession c) :
    ∃ count final, server.afterActions thread count = some final ∧
      final.threads.holder = none ∧ KeepsOthers server final thread := by
  induction connections generalizing server with
  | nil =>
      have gives := ordered.advanced_iff.mpr (.unlock answers : Advanced server thread none _)
      exact ⟨1, _, afterActions_of_advance gives rfl, rfl, keepsOthers_setProgram rfl⟩
  | cons c connections inductionHypothesis =>
      have answer : Advanced server thread none _ :=
        .answer c connections answers (sessions c List.mem_cons_self) rfl
      have orderedNext := ordered.advanced
        (fun _ _ _ _ _ same => by cases same) answer
      rcases inductionHypothesis orderedNext program_setProgram_self
        (fun other member => sessions other (List.mem_cons_of_mem c member)) with
        ⟨count, final, others, free, kept⟩
      exact ⟨count + 1, final, afterActions_of_advance (ordered.advanced_iff.mpr answer) others,
        free, (keepsOthers_setProgram rfl).trans kept⟩

/-- A prepared holder comes to the end of its program. -/
theorem holder_finishes (ordered : Ordered server) (prepared : Prepared server)
    (held : server.threads.holder = some thread) :
    ∃ count final, server.afterActions thread count = some final ∧
      final.threads.holder = none ∧ KeepsOthers server final thread := by
  have inside := ordered.disciplined.inside thread held
  have orderly := ordered.orderly thread
  have sessions : ∀ c, OwesOn server.login (server.threads.program thread) c →
    server.HasSession c := prepared.reaches thread
  generalize runs : server.threads.program thread = program at inside orderly sessions
  cases orderly with
  | idle => exact absurd inside not_inside_nil
  | entering event => exact absurd inside not_inside_lock
  | answers connections =>
      exact answers_finish ordered connections runs fun c member =>
        sessions c ((owesOn_answers_iff _).mpr member)
  | session event =>
      rcases (prepared.finds thread event _ runs).exists_handle with ⟨login, sent, handled⟩
      have first : Advanced server thread none _ := .session event login sent runs handled
      have orderedNext := ordered.advanced (fun _ _ _ _ _ same => by cases same) first
      have answered : ∀ c ∈ sent.map Sent.connection, server.HasSession c := fun c member =>
        sessions c (owesOn_session_iff.mpr (((outcome_of_handle handled).2 c).mp member))
      rcases answers_finish orderedNext _ program_setProgram_self answered with
        ⟨count, final, others, free, kept⟩
      exact ⟨count + 1, final, afterActions_of_advance (ordered.advanced_iff.mpr first) others,
        free, (keepsOthers_setProgram rfl).trans kept⟩

/-- The holder has come to a handler that does not find its keys, or has an
answer to give on a connection without a session. -/
def Stuck (server : Server) (thread : Connection) : Prop :=
  (∃ event rest, server.threads.program thread = .work (.session event) :: rest ∧
      ¬ FindsKeys server.login event) ∨
    ∃ c, server.Owes thread c ∧ ¬ server.HasSession c

/-- It does not get past that. -/
theorem Stuck.advanced (stuck : Stuck server thread)
    (held : server.threads.holder = some thread) (advanced : Advanced server thread none next) :
    next.threads.holder = some thread ∧ Stuck next thread := by
  unfold Stuck Owes at stuck
  cases advanced with
  | lock event asks free =>
      rw [held] at free
      cases free
  | unlock gives =>
      rw [gives] at stuck
      rcases stuck with ⟨event, rest, runs, _⟩ | ⟨c, owes, _⟩
      · cases runs
      · exact absurd ((owesOn_answers_iff []).mp owes) List.not_mem_nil
  | session event login sent runs handled =>
      rw [runs] at stuck
      rcases outcome_of_handle handled with ⟨finds, answered⟩
      refine ⟨held, .inr ?_⟩
      rcases stuck with ⟨other, rest, same, lost⟩ | ⟨c, owes, closed⟩
      · cases same
        exact absurd finds lost
      · refine ⟨c, ?_, closed⟩
        rw [Owes, program_continueWith, owesOn_answers_iff]
        exact (answered c).mpr (owesOn_session_iff.mp owes)
  | answer c connections answers session written =>
      rw [answers] at stuck
      refine ⟨held, .inr ?_⟩
      rcases stuck with ⟨event, rest, same, _⟩ | ⟨other, owes, closed⟩
      · cases same
      · refine ⟨other, ?_, closed⟩
        rw [Owes, program_continueWith, owesOn_answers_iff]
        apply (owesOn_cons_iff.mp owes).resolve_left
        rintro rfl
        exact closed session
  | failedAnswer c connections link byte answers accepted session failed => cases failed

theorem Stuck.not_released (ordered : Ordered server)
    (held : server.threads.holder = some thread) (stuck : Stuck server thread) {count : Nat}
    {final : Server} (reached : server.afterActions thread count = some final) :
    final.threads.holder = some thread := by
  induction count generalizing server with
  | zero =>
      cases reached
      exact held
  | succ count inductionHypothesis =>
      rw [afterActions_succ] at reached
      rcases Option.bind_eq_some_iff.mp reached with ⟨next, first, others⟩
      have advanced := ordered.advanced_iff.mp first
      rcases stuck.advanced held advanced with ⟨heldNext, stuckNext⟩
      exact inductionHypothesis (ordered.advanced (fun _ _ _ _ _ same => by cases same) advanced)
        heldNext stuckNext others

/-- The server serves exactly when whoever holds the mutex is prepared. -/
theorem Ordered.serves_iff (ordered : Ordered server) : Serves server ↔ Prepared server := by
  constructor
  · intro serves
    have unstuck : ∀ thread, server.threads.holder = some thread → ¬ Stuck server thread := by
      intro thread held stuck
      rcases serves.released thread held with ⟨count, final, reached, free⟩
      rw [stuck.not_released ordered held reached] at free
      cases free
    constructor
    · intro thread event rest runs
      by_contra lost
      exact unstuck thread (ordered.disciplined.holder_of_work runs)
        (.inl ⟨event, rest, runs, lost⟩)
    · intro thread c owes
      by_contra closed
      exact unstuck thread (ordered.holder_of_owes owes) (.inr ⟨c, owes, closed⟩)
  · intro prepared
    refine ⟨ordered.disciplined.not_selfLocked, ?_, ?_⟩
    · intro thread held
      rcases holder_finishes ordered prepared held with ⟨count, final, reached, free, _⟩
      exact ⟨count, final, reached, free⟩
    · intro thread rest asks
      have gets : ∀ final : Server, final.threads.program thread = .lock :: rest →
          final.threads.holder = none → ∃ taken, final.advance thread none = some taken ∧
            taken.threads.holder = some thread := by
        intro final asksLater free
        unfold Server.advance
        rw [asksLater]
        simp only [acquire_of_free free, Option.map_some]
        exact ⟨_, rfl, rfl⟩
      cases held : server.threads.holder with
      | none => exact ⟨thread, 0, server, rfl, gets server asks held⟩
      | some holder =>
          rcases holder_finishes ordered prepared held with ⟨count, final, reached, free, kept⟩
          have different : thread ≠ holder := by
            rintro rfl
            exact ordered.disciplined.not_selfLocked ⟨thread, rest, held, asks⟩
          have asksLater := (kept thread different).trans asks
          exact ⟨holder, count, final, reached, gets final asksLater free⟩

theorem Ordered.prepared_of_holder (ordered : Ordered server)
    (finds : ∀ thread event rest, server.threads.holder = some thread →
      server.threads.program thread = .work (.session event) :: rest →
        FindsKeys server.login event)
    (reaches : ∀ thread c, server.threads.holder = some thread → server.Owes thread c →
      server.HasSession c) : Prepared server where
  finds := fun thread event rest runs =>
    finds thread event rest (ordered.disciplined.holder_of_work runs) runs
  reaches := fun thread c owes => reaches thread c (ordered.holder_of_owes owes) owes

theorem hasSession_withClosed_iff {link : Link} {other : Connection} :
    (server.withClosed c link).HasSession other ↔ other ≠ c ∧ server.HasSession other := by
  by_cases same : other = c
  · refine iff_of_false ?_ fun both => both.1 same
    rintro ⟨left, found, session⟩
    cases (if_pos same).symm.trans found
    cases session
  · refine Iff.trans ?_ (and_iff_right same).symm
    have kept : (server.withClosed c link).links other = server.links other := if_neg same
    simp only [HasSession, kept]

theorem Ordered.program_of_holder (ordered : Ordered server)
    (idle : server.threads.program c = []) (held : server.threads.holder = some thread)
    (program : List (Action Work)) :
    (server.threads.setProgram c program).program thread = server.threads.program thread := by
  apply program_setProgram_of_ne
  rintro rfl
  exact ordered.disciplined.not_holder_of_idle idle held

theorem Prepared.enter (prepared : Prepared server) (ordered : Ordered server)
    (entered : server.enter c event = some next) : Prepared next := by
  have orderedNext := ordered.enter entered
  unfold Server.enter at entered
  split at entered
  · next waits =>
    cases entered
    rcases receiving_iff.mp waits with ⟨_, _, _, idle⟩
    apply orderedNext.prepared_of_holder
    · intro thread event rest held runs
      exact prepared.finds thread event rest
        ((ordered.program_of_holder idle held _).symm.trans runs)
    · intro thread c held owes
      apply prepared.reaches thread c
      exact (congrArg (OwesOn server.login · c) (ordered.program_of_holder idle held _)).mp owes
  · cases entered

theorem Prepared.streamEnds (prepared : Prepared server) (ordered : Ordered server)
    (unanswered : server.receiving c = true → ∀ thread, ¬ server.Owes thread c)
    (stepped : Server.step server (.streamEnds c) = some next) : Prepared next := by
  have orderedNext := ordered.streamEnds stepped
  simp only [Server.step] at stepped
  split at stepped
  · next waits =>
    rcases receiving_iff.mp waits with ⟨link, accepted, _, idle⟩
    rw [ordered.close_eq accepted] at stepped
    cases stepped
    apply orderedNext.prepared_of_holder
    · intro thread event rest held runs
      exact prepared.finds thread event rest
        ((ordered.program_of_holder idle held _).symm.trans runs)
    · intro thread other held owes
      have owed : server.Owes thread other :=
        (congrArg (OwesOn server.login · other) (ordered.program_of_holder idle held _)).mp owes
      refine hasSession_withClosed_iff.mpr ⟨?_, prepared.reaches thread other owed⟩
      rintro rfl
      exact unanswered waits thread owed
  · cases stepped

/-- Control that announces itself is on a link with a session. -/
theorem Prepared.controlConnection (prepared : Prepared server) (ordered : Ordered server)
    (stepped : Server.step server (.controlConnection c) = some next) : Prepared next := by
  simp only [Server.step] at stepped
  split at stepped
  · next waits =>
    rcases receiving_iff.mp waits with ⟨link, accepted, online, _⟩
    cases stepped
    have session : server.HasSession c :=
      ⟨link, accepted, (ordered.opened c link accepted).symm.trans online⟩
    constructor
    · intro thread event rest runs
      exact (prepared.finds thread event rest runs).withControl (some c)
    · rintro thread other (member | ⟨event, rest, runs, answers⟩)
      · exact prepared.reaches thread other (.inl member)
      · rcases answers_withControl answers with same | before
        · exact same ▸ session
        · exact prepared.reaches thread other (.inr ⟨event, rest, runs, before⟩)
  · cases stepped

/-- The thread that has just gone on holds the mutex, or nobody does. -/
theorem Ordered.prepared_of_program (ordered : Ordered server) {program : List (Action Work)}
    (held : ∀ other, server.threads.holder = some other → other = thread)
    (runs : server.threads.program thread = program)
    (finds : ∀ event rest, program = .work (.session event) :: rest →
      FindsKeys server.login event)
    (reaches : ∀ c, OwesOn server.login program c → server.HasSession c) : Prepared server := by
  subst runs
  apply ordered.prepared_of_holder
  · intro other event rest holds
    cases held other holds
    exact finds event rest
  · intro other c holds
    cases held other holds
    exact reaches c

theorem Prepared.advanced (prepared : Prepared server) (ordered : Ordered server)
    (harmless : Harmless server (.advance thread failure))
    (advanced : Advanced server thread failure next) (orderedNext : Ordered next) :
    Prepared next := by
  have sessions : ∀ c, OwesOn server.login (server.threads.program thread) c →
    server.HasSession c := prepared.reaches thread
  have holds : ∀ {threads : Threads Connection Work}, threads.holder = server.threads.holder →
      server.threads.holder = some thread → ∀ other, threads.holder = some other →
        other = thread := by
    intro threads same held other holds
    exact Option.some.inj (holds.symm.trans (same.trans held))
  cases advanced with
  | lock event asks free =>
      rcases harmless.takes thread failure event _ rfl asks free with ⟨finds, answered⟩
      refine orderedNext.prepared_of_program (fun other held => (Option.some.inj held).symm)
        program_setProgram_self ?_ ?_
      · rintro _ _ ⟨⟩
        exact finds
      · exact fun c owes => answered c (owesOn_session_iff.mp owes)
  | unlock gives => exact orderedNext.prepared_of_holder nofun nofun
  | session event login sent runs handled =>
      rw [runs] at sessions
      have held := ordered.disciplined.holder_of_work runs
      apply orderedNext.prepared_of_program (holds rfl held) program_setProgram_self
      · intro other rest same
        cases sent <;> cases same
      · intro c owes
        have member := (owesOn_answers_iff _).mp owes
        exact sessions c (owesOn_session_iff.mpr (((outcome_of_handle handled).2 c).mp member))
  | answer c connections answers session written =>
      rw [answers] at sessions
      have held := ordered.disciplined.holder_of_work answers
      apply orderedNext.prepared_of_program (holds rfl held) program_setProgram_self
      · intro other rest same
        cases connections <;> cases same
      · intro other owes
        exact sessions other (owesOn_cons_iff.mpr (.inr ((owesOn_answers_iff _).mp owes)))
  | failedAnswer c connections link byte answers accepted session failed =>
      rw [answers] at sessions
      have held := ordered.disciplined.holder_of_work answers
      rcases harmless.writes thread byte c _ link (congrArg _ failed) answers accepted with
        ⟨silent, last⟩
      have program : (if link.listened then underMutex (.connectionClosed c) else []) ++
          (answersOn connections ++ [.unlock]) = answersOn connections ++ [.unlock] := by
        rw [silent]
        rfl
      refine orderedNext.prepared_of_program (holds rfl held)
        (program_setProgram_self.trans program) ?_ ?_
      · intro other rest same
        cases connections <;> cases same
      · intro other owes
        have member := (owesOn_answers_iff _).mp owes
        have reached := sessions other (owesOn_cons_iff.mpr (.inr member))
        refine hasSession_withClosed_iff.mpr ⟨?_, reached⟩
        rintro rfl
        exact last (List.mem_append_left _ (mem_answersOn_iff.mpr member))

theorem Harmless.unheard (harmless : Harmless server move) : Unheard server move :=
  fun thread byte c rest link same answers accepted =>
    (harmless.writes thread byte c rest link same answers accepted).1

/-- A harmless move leaves the holder of the mutex prepared. -/
theorem Prepared.step (prepared : Prepared server) (ordered : Ordered server)
    (harmless : Harmless server move) (stepped : Server.step server move = some next) :
    Prepared next := by
  have orderedNext := ordered.step harmless.unheard stepped
  cases move with
  | accept c manager =>
      simp only [Server.step] at stepped
      split at stepped
      · cases stepped
      · next absent =>
        cases stepped
        refine ⟨prepared.finds, fun thread other owes => ?_⟩
        rcases prepared.reaches thread other owes with ⟨link, accepted, session⟩
        refine ⟨link, (if_neg ?_).trans accepted, session⟩
        rintro rfl
        rw [absent] at accepted
        cases accepted
  | loginRequest c user valid unset => exact prepared.enter ordered stepped
  | logoutRequest c clientId token => exact prepared.enter ordered stepped
  | controlConnection c => exact prepared.controlConnection ordered stepped
  | streamEnds c => exact prepared.streamEnds ordered (harmless.ends c rfl) stepped
  | advance thread failure =>
      exact prepared.advanced ordered harmless (ordered.advanced_iff.mp stepped) orderedNext

/-- A failing answer on a listened link locks its thread, and one that is not
the last on its link leaves an answer that cannot be written. -/
theorem Ordered.harmless_write (ordered : Ordered server) (prepared : Prepared server)
    {byte : Nat} {link : Link}
    (serves : ∀ next, Server.step server (.advance thread (some byte)) = some next → next.Serves)
    (answers : server.threads.program thread = .work (.sendAnswer c) :: rest)
    (accepted : server.links c = some link) :
    link.listened = false ∧ .work (.sendAnswer c) ∉ rest := by
  have orderly := ordered.orderly thread
  have sessions : ∀ c, OwesOn server.login (server.threads.program thread) c →
    server.HasSession c := prepared.reaches thread
  have held := ordered.disciplined.holder_of_work answers
  rw [answers] at orderly sessions
  rcases orderly_sendAnswer orderly with ⟨connections, rfl⟩
  have session : link.ssl = true := by
    rcases sessions c (owesOn_cons_iff.mpr (.inl rfl)) with ⟨other, found, session⟩
    cases Option.mem_unique accepted found
    exact session
  have failed : Advanced server thread (some byte) _ :=
    .failedAnswer c connections link byte answers accepted session rfl
  have servesNext := serves _ (ordered.advanced_iff.mpr failed)
  cases listened : link.listened with
  | true =>
      refine absurd ?_ servesNext.notSelfLocked
      rw [listened]
      exact selfLocked_of_lock held
  | false =>
      refine ⟨rfl, fun member => ?_⟩
      have unheard : Unheard server (.advance thread (some byte)) := by
        rintro _ _ other _ left ⟨⟩ answersToo found
        cases answers.symm.trans answersToo
        cases Option.mem_unique accepted found
        exact listened
      have orderedNext := ordered.advanced unheard failed
      have preparedNext := orderedNext.serves_iff.mp servesNext
      have reached := preparedNext.reaches thread c (by
        rw [Owes, program_continueWith, listened]
        exact .inl member)
      exact (hasSession_withClosed_iff.mp reached).1 rfl

/-- Only harmless moves leave a server that serves. -/
theorem Ordered.harmless_of_serves (ordered : Ordered server) (prepared : Prepared server)
    (serves : ∀ next, Server.step server move = some next → next.Serves) :
    Harmless server move where
  writes := by
    rintro thread byte c rest link rfl answers accepted
    exact ordered.harmless_write prepared serves answers accepted
  takes := by
    rintro thread failure event rest rfl asks free
    have orderly := ordered.orderly thread
    rw [asks] at orderly
    rcases orderly_lock orderly with ⟨event, same⟩
    cases same
    have taken : Advanced server thread failure _ := .lock event asks free
    have unheard : Unheard server (.advance thread failure) := by
      rintro _ _ _ _ _ ⟨⟩ answers _
      cases asks.symm.trans answers
    have orderedNext := ordered.advanced unheard taken
    have preparedNext := orderedNext.serves_iff.mp (serves _ (ordered.advanced_iff.mpr taken))
    have runs : (server.threads.setProgram thread
        [Action.work (.session event), .unlock]).program thread =
          [.work (.session event), .unlock] := program_setProgram_self
    refine ⟨preparedNext.finds thread event _ runs, fun c answers => ?_⟩
    apply preparedNext.reaches thread c
    exact (congrArg (OwesOn server.login · c) runs).mpr (owesOn_session_iff.mpr answers)
  ends := by
    rintro c rfl waits thread owes
    rcases receiving_iff.mp waits with ⟨link, accepted, _, idle⟩
    have stepped : Server.step server (.streamEnds c) =
        some ((server.withClosed c link).continueWith c
          ((if link.listened then underMutex (.connectionClosed c) else []) ++ [])) :=
      (if_pos waits).trans (ordered.close_eq accepted)
    have orderedNext := ordered.streamEnds stepped
    have preparedNext := orderedNext.serves_iff.mp (serves _ stepped)
    have held := ordered.holder_of_owes owes
    have reached := preparedNext.reaches thread c
      ((congrArg (OwesOn server.login · c) (ordered.program_of_holder idle held _)).mpr owes)
    exact (hasSession_withClosed_iff.mp reached).1 rfl

/-- Control's stream ends while a login waits for the mutex: the thread that
takes it has to write to a link without a session. -/
example : ¬ AtEach step
    (fun _ server move => ∀ next, step server move = some next → next.Serves) initial
    [.accept 9 .managerControl, .controlConnection 9, .accept 1 .managerClient,
      .loginRequest 1 "ana" false default, .streamEnds 9, .advance 1 none] := by
  intro held
  have serves := held [.accept 9 .managerControl, .controlConnection 9, .accept 1 .managerClient,
    .loginRequest 1 "ana" false default, .streamEnds 9] (.advance 1 none) [] _ rfl rfl _ rfl
  rcases serves.released 1 rfl with ⟨count, final, reached, free⟩
  rcases count with _ | _ | count
  · cases reached
    cases free
  · cases reached
    cases free
  · cases reached

end Server

end LoginServer
end Pxc
