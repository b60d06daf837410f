import Pxc.General.Runs

namespace Pxc
namespace General

/-!
# A source, a relay and a sink

A source reacts to events and sends messages to a relay.  The relay answers
each with messages to a sink, and has a state of its own that may change in
between, with messages of their own.  The two connections keep the order of
what is sent on them and deliver with any delay, so a run is any sequence of
acts of the three parties.

What a message says is a list of notices.  A relay is faithful when the
messages it sends on say what it was told, and its changes say nothing.
Whatever the order of the acts, what the sink has heard is then the beginning
of what the source has said, and the rest is on its way.
-/

universe u v w x y z t s

variable {Source : Type u} {Relay : Type v} {Sink : Type w} {First : Type x} {Second : Type y}
  {Event : Type z} {Change : Type t} {Notice : Type s}

/-- The three parties and the messages between them. -/
structure Line (Source : Type u) (Relay : Type v) (Sink : Type w) (First : Type x)
    (Second : Type y) where
  source : Source
  first : List First
  relay : Relay
  second : List Second
  sink : Sink

/-- How the parties act.  Each act may be undefined. -/
structure Parties (Source : Type u) (Relay : Type v) (Sink : Type w) (First : Type x)
    (Second : Type y) (Event : Type z) (Change : Type t) where
  emit : Source → Event → Option (Source × List First)
  change : Relay → Change → Option (Relay × List Second)
  forward : Relay → First → Option (List Second)
  receive : Sink → Second → Option Sink

/-- An act of a run. -/
inductive Act (Event : Type z) (Change : Type t) where
  | emit (event : Event)
  | change (change : Change)
  | forward
  | receive

/-- The events of the source among some acts. -/
def emittedBy (acts : List (Act Event Change)) : List Event :=
  acts.filterMap fun
    | .emit event => some event
    | _ => none

theorem emittedBy_append (first second : List (Act Event Change)) :
    emittedBy (first ++ second) = emittedBy first ++ emittedBy second :=
  List.filterMap_append

/-- The acts that bring a message on its way one party further. -/
def Act.delivers : Act Event Change → Bool
  | .forward => true
  | .receive => true
  | .emit _ => false
  | .change _ => false

theorem emittedBy_deliveries {acts : List (Act Event Change)}
    (deliveries : ∀ act ∈ acts, act.delivers = true) : emittedBy acts = [] := by
  apply List.filterMap_eq_nil_iff.mpr
  intro act member
  have delivery := deliveries act member
  cases act with
  | emit event => cases delivery
  | change change => cases delivery
  | forward => rfl
  | receive => rfl

/-- What the messages say. -/
structure Speech (First : Type x) (Second : Type y) (Notice : Type s) where
  ofFirst : First → List Notice
  ofSecond : Second → List Notice

namespace Line

/-- One act.  A message cannot be handled before it has been sent. -/
def step (parties : Parties Source Relay Sink First Second Event Change)
    (line : Line Source Relay Sink First Second) :
    Act Event Change → Option (Line Source Relay Sink First Second)
  | .emit event =>
      (parties.emit line.source event).map fun (source, sent) =>
        { line with source, first := line.first ++ sent }
  | .change change =>
      (parties.change line.relay change).map fun (relay, sent) =>
        { line with relay, second := line.second ++ sent }
  | .forward =>
      match line.first with
      | [] => none
      | message :: first =>
          (parties.forward line.relay message).map fun sent =>
            { line with first, second := line.second ++ sent }
  | .receive =>
      match line.second with
      | [] => none
      | message :: second =>
          (parties.receive line.sink message).map fun sink => { line with second, sink }

/-- What has been said and is still on its way to the sink. -/
def unheard (speech : Speech First Second Notice) (line : Line Source Relay Sink First Second) :
    List Notice :=
  line.second.flatMap speech.ofSecond ++ line.first.flatMap speech.ofFirst

/-- The messages that the relay sends on say what it was told, and those of
its changes say nothing. -/
structure Faithful (parties : Parties Source Relay Sink First Second Event Change)
    (speech : Speech First Second Notice) : Prop where
  forwarded : ∀ relay message sent, parties.forward relay message = some sent →
    sent.flatMap speech.ofSecond = speech.ofFirst message
  silent : ∀ relay change relay' sent, parties.change relay change = some (relay', sent) →
    sent.flatMap speech.ofSecond = []

variable {parties : Parties Source Relay Sink First Second Event Change}
  {speech : Speech First Second Notice} {start line next : Line Source Relay Sink First Second}
  {acts : List (Act Event Change)}

theorem forward_eq_some_iff :
    line.step parties .forward = some next ↔
      ∃ message first sent, line.first = message :: first ∧
        parties.forward line.relay message = some sent ∧
        next = { line with first, second := line.second ++ sent } := by
  unfold step
  cases waiting : line.first with
  | nil => simp only [reduceCtorEq, false_and, exists_false]
  | cons message first =>
      simp only [Option.map_eq_some_iff]
      constructor
      · rintro ⟨sent, forwarded, rfl⟩
        exact ⟨message, first, sent, rfl, forwarded, rfl⟩
      · rintro ⟨_, _, sent, same, forwarded, rfl⟩
        cases same
        exact ⟨sent, forwarded, rfl⟩

theorem receive_eq_some_iff :
    line.step parties .receive = some next ↔
      ∃ message second sink, line.second = message :: second ∧
        parties.receive line.sink message = some sink ∧ next = { line with second, sink } := by
  unfold step
  cases waiting : line.second with
  | nil => simp only [reduceCtorEq, false_and, exists_false]
  | cons message second =>
      simp only [Option.map_eq_some_iff]
      constructor
      · rintro ⟨sink, received, rfl⟩
        exact ⟨message, second, sink, rfl, received, rfl⟩
      · rintro ⟨_, _, sink, same, received, rfl⟩
        cases same
        exact ⟨sink, received, rfl⟩

/-- Without the others, the source makes the same run. -/
theorem run_source (reached : run (step parties) start acts = some line) :
    run (fun source event => (parties.emit source event).map Prod.fst) start.source
      (emittedBy acts) = some line.source := by
  refine run_invariant_of_step (fun _ => True) (fun acts line =>
    run (fun source event => (parties.emit source event).map Prod.fst) start.source
      (emittedBy acts) = some line.source) (fun _ _ _ => trivial) rfl ?_ trivial reached
  intro before state act next _ earlier stepped
  rw [emittedBy_append]
  cases act with
  | emit event =>
      rcases Option.map_eq_some_iff.mp stepped with ⟨⟨source, sent⟩, emitted, rfl⟩
      refine (run_concat_eq_some_iff _ _ _ _).mpr ⟨state.source, earlier, ?_⟩
      rw [emitted, Option.map_some]
  | change change =>
      rcases Option.map_eq_some_iff.mp stepped with ⟨⟨relay, sent⟩, _, rfl⟩
      exact (congrArg _ (List.append_nil _)).trans earlier
  | forward =>
      rcases forward_eq_some_iff.mp stepped with ⟨message, first, sent, _, _, rfl⟩
      exact (congrArg _ (List.append_nil _)).trans earlier
  | receive =>
      rcases receive_eq_some_iff.mp stepped with ⟨message, second, sink, _, _, rfl⟩
      exact (congrArg _ (List.append_nil _)).trans earlier

section Heard

variable (spoken : List Event → List Notice → Source → Prop) (taken : List Notice → Sink → Prop)

/-- What the sink has heard and what is on its way are together what the
source has said. -/
def Told (speech : Speech First Second Notice) (events : List Event)
    (line : Line Source Relay Sink First Second) : Prop :=
  ∃ heard, spoken events (heard ++ line.unheard speech) line.source ∧ taken heard line.sink

/-- A source that says nothing out of turn. -/
def Speaks (parties : Parties Source Relay Sink First Second Event Change)
    (speech : Speech First Second Notice) (admissible : List Event → Prop) : Prop :=
  ∀ before event said source source' sent, admissible (before ++ [event]) →
    spoken before said source → parties.emit source event = some (source', sent) →
      spoken (before ++ [event]) (said ++ sent.flatMap speech.ofFirst) source'

/-- A sink that can hear whatever the source says next. -/
def Listens (parties : Parties Source Relay Sink First Second Event Change)
    (speech : Speech First Second Notice) : Prop :=
  ∀ events heard message rest source sink,
    spoken events (heard ++ (speech.ofSecond message ++ rest)) source → taken heard sink →
      ∃ sink', parties.receive sink message = some sink' ∧
        taken (heard ++ speech.ofSecond message) sink'

variable {spoken taken} {admissible : List Event → Prop}

theorem Told.receive {events : List Event} (told : line.Told spoken taken speech events)
    (listens : Listens spoken taken parties speech) {message : Second} {second : List Second}
    (waiting : line.second = message :: second) :
    ∃ sink, parties.receive line.sink message = some sink ∧
      Told spoken taken speech events { line with second, sink } := by
  rcases told with ⟨heard, said, takenHeard⟩
  have split : heard ++ line.unheard speech = heard ++ (speech.ofSecond message ++
      (second.flatMap speech.ofSecond ++ line.first.flatMap speech.ofFirst)) := by
    rw [unheard, waiting, List.flatMap_cons, List.append_assoc]
  rw [split] at said
  rcases listens events heard message _ line.source line.sink said takenHeard with
    ⟨sink, received, takenMore⟩
  refine ⟨sink, received, _, ?_, takenMore⟩
  rw [List.append_assoc]
  exact said

/-- One act keeps what was said, and where it has come to. -/
theorem Told.step {before : List (Act Event Change)} {act : Act Event Change}
    (told : line.Told spoken taken speech (emittedBy before)) (faithful : Faithful parties speech)
    (speaks : Speaks spoken parties speech admissible)
    (listens : Listens spoken taken parties speech)
    (allowed : admissible (emittedBy (before ++ [act])))
    (stepped : line.step parties act = some next) :
    next.Told spoken taken speech (emittedBy (before ++ [act])) := by
  rw [emittedBy_append] at allowed ⊢
  cases act with
  | emit event =>
      rcases Option.map_eq_some_iff.mp stepped with ⟨⟨source, sent⟩, emitted, rfl⟩
      rcases told with ⟨heard, said, takenHeard⟩
      refine ⟨heard, ?_, takenHeard⟩
      have more := speaks (emittedBy before) event _ line.source source sent allowed said emitted
      simp only [unheard, List.flatMap_append, List.append_assoc] at more ⊢
      exact more
  | change change =>
      rcases Option.map_eq_some_iff.mp stepped with ⟨⟨relay, sent⟩, changed, rfl⟩
      rcases told with ⟨heard, said, takenHeard⟩
      refine ⟨heard, ?_, takenHeard⟩
      have same : unheard speech { line with relay, second := line.second ++ sent } =
          line.unheard speech := by
        simp only [unheard, List.flatMap_append,
          faithful.silent line.relay change relay sent changed,
          List.append_nil]
      rw [same]
      exact (List.append_nil (emittedBy before)).symm ▸ said
  | forward =>
      rcases forward_eq_some_iff.mp stepped with ⟨message, first, sent, waiting, forwarded, rfl⟩
      rcases told with ⟨heard, said, takenHeard⟩
      refine ⟨heard, ?_, takenHeard⟩
      have same : unheard speech { line with first, second := line.second ++ sent } =
          line.unheard speech := by
        simp only [unheard, waiting, List.flatMap_append, List.flatMap_cons,
          faithful.forwarded line.relay message sent forwarded, List.append_assoc]
      rw [same]
      exact (List.append_nil (emittedBy before)).symm ▸ said
  | receive =>
      rcases receive_eq_some_iff.mp stepped with ⟨message, second, sink, waiting, received, rfl⟩
      rcases told.receive listens waiting with ⟨sink', received', toldNext⟩
      cases Option.mem_unique received received'
      exact (List.append_nil (emittedBy before)).symm ▸ toldNext

/-- Along every run, the sink has heard the beginning of what was said. -/
theorem told_of_run (closed : PrefixClosed admissible) (faithful : Faithful parties speech)
    (speaks : Speaks spoken parties speech admissible)
    (listens : Listens spoken taken parties speech)
    (starts : start.Told spoken taken speech ([] : List Event))
    (allowed : admissible (emittedBy acts)) (reached : run (step parties) start acts = some line) :
    line.Told spoken taken speech (emittedBy acts) := by
  refine run_invariant_of_step (fun acts => admissible (emittedBy acts))
    (fun acts line => line.Told spoken taken speech (emittedBy acts)) ?_ starts ?_ allowed reached
  · intro first second within
    rw [emittedBy_append] at within
    exact closed _ _ within
  · intro before state act next within told stepped
    exact told.step faithful speaks listens within stepped

/-- The relay can handle all that waits for it, one message after the other. -/
theorem exists_forwarded {waiting : List First} (atRelay : line.first = waiting)
    (forwardable : ∀ message ∈ waiting, ∃ sent, parties.forward line.relay message = some sent) :
    ∃ second, run (Line.step parties) line (List.replicate waiting.length .forward) =
      some { line with first := [], second } := by
  induction waiting generalizing line with
  | nil =>
      refine ⟨line.second, ?_⟩
      cases line
      cases atRelay
      rfl
  | cons message waiting inductionHypothesis =>
      rcases forwardable message List.mem_cons_self with ⟨sent, forwarded⟩
      let following : Line Source Relay Sink First Second :=
        { line with first := waiting, second := line.second ++ sent }
      have stepped : line.step parties .forward = some following :=
        forward_eq_some_iff.mpr ⟨message, waiting, sent, atRelay, forwarded, rfl⟩
      have later : ∀ message ∈ waiting, ∃ sent,
          parties.forward following.relay message = some sent :=
        fun other member => forwardable other (List.mem_cons_of_mem _ member)
      have atFollowing : following.first = waiting := rfl
      rcases inductionHypothesis atFollowing later with ⟨second, onwards⟩
      refine ⟨second, ?_⟩
      rw [List.length_cons, List.replicate_succ, run_cons, stepped]
      exact onwards

/-- The sink can hear all that waits for it. -/
theorem Told.exists_received {events : List Event} {waiting : List Second}
    (told : line.Told spoken taken speech events)
    (listens : Listens spoken taken parties speech) (atSink : line.second = waiting) :
    ∃ sink, run (Line.step parties) line (List.replicate waiting.length .receive) =
      some { line with second := [], sink } := by
  induction waiting generalizing line with
  | nil =>
      refine ⟨line.sink, ?_⟩
      cases line
      cases atSink
      rfl
  | cons message waiting inductionHypothesis =>
      rcases told.receive listens atSink with ⟨sink, received, toldNext⟩
      have stepped : line.step parties .receive = some { line with second := waiting, sink } :=
        receive_eq_some_iff.mpr ⟨message, waiting, sink, atSink, received, rfl⟩
      rcases inductionHypothesis toldNext rfl with ⟨final, onwards⟩
      refine ⟨final, ?_⟩
      rw [List.length_cons, List.replicate_succ, run_cons, stepped]
      exact onwards

/-- Whatever is on its way can be brought to the sink by deliveries alone, if
the relay can handle what waits for it. -/
theorem exists_delivered (closed : PrefixClosed admissible) (faithful : Faithful parties speech)
    (speaks : Speaks spoken parties speech admissible)
    (listens : Listens spoken taken parties speech)
    (starts : start.Told spoken taken speech ([] : List Event))
    (allowed : admissible (emittedBy acts))
    (reached : run (Line.step parties) start acts = some line)
    (forwardable : ∀ message ∈ line.first, ∃ sent, parties.forward line.relay message = some sent) :
    ∃ more final, (∀ act ∈ more, act.delivers = true) ∧
      run (Line.step parties) start (acts ++ more) = some final ∧ final.source = line.source ∧
      final.first = [] ∧ final.second = [] := by
  rcases exists_forwarded rfl forwardable with ⟨second, forwarded⟩
  let first : List (Act Event Change) := List.replicate line.first.length .forward
  have forwards : ∀ act ∈ first, act.delivers = true := by
    intro act member
    rw [List.eq_of_mem_replicate member]
    rfl
  have noEvents : emittedBy (acts ++ first) = emittedBy acts := by
    rw [emittedBy_append, emittedBy_deliveries forwards, List.append_nil]
  have between : run (Line.step parties) start (acts ++ first) =
      some { line with first := [], second } := by
    rw [run_append, reached]
    exact forwarded
  have told := told_of_run closed faithful speaks listens starts (noEvents.symm ▸ allowed) between
  rcases told.exists_received listens rfl with ⟨sink, received⟩
  refine ⟨first ++ List.replicate second.length .receive,
    { line with first := [], second := [], sink }, ?_, ?_, rfl, rfl, rfl⟩
  · intro act member
    rcases List.mem_append.mp member with forwarding | receiving
    · exact forwards act forwarding
    · rw [List.eq_of_mem_replicate receiving]
      rfl
  · rw [← List.append_assoc, run_append, between]
    exact received

end Heard

end Line

end General
end Pxc
