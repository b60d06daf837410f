import Pxc.Control.Servers

namespace Pxc
namespace Control

/-!
# What a balancing does

The first iteration works on the list as it was sorted by load.  It then
sorts the list by the addresses of the servers, so that every later iteration
has the same two servers, the same deviation and the same zone, and repeats
the second one.  A balancing is therefore one of six things, which
`balance_outcome` lists with everything they return.
-/

variable {D : Type} [Zero D] [Add D] [Arithmetic D] [LT D] [DecidableLT D]

section LoopVariables

omit [Zero D] [Add D] [Arithmetic D] [LT D] [DecidableLT D]

/-- The loop variables with the last and the first server of the list. -/
def loopVariables (control : Control D) (standardDev : D) : Option (Balancing D) :=
  match control.servers.getLast?, control.servers.head? with
  | some maxLoadServer, some minLoadServer =>
      some { control, standardDev, maxLoadServer, minLoadServer }
  | _, _ => none

theorem loopVariables_eq_some_iff {control : Control D} {standardDev : D} {s : Balancing D} :
    loopVariables control standardDev = some s ↔
      s.control = control ∧ s.standardDev = standardDev ∧
        control.servers.getLast? = some s.maxLoadServer ∧
        control.servers.head? = some s.minLoadServer := by
  unfold loopVariables
  constructor
  · intro found
    split at found
    · next last first =>
      cases found
      exact ⟨rfl, rfl, last, first⟩
    · cases found
  · rintro ⟨rfl, rfl, last, first⟩
    rw [last, first]

theorem exists_loopVariables {control : Control D} (standardDev : D)
    (nonempty : control.servers ≠ []) :
    ∃ s, loopVariables control standardDev = some s := by
  have last := List.getLast?_eq_some_getLast nonempty
  have first := List.head?_eq_some_head nonempty
  exact ⟨⟨control, standardDev, control.servers.getLast nonempty, control.servers.head nonempty⟩,
    loopVariables_eq_some_iff.mpr ⟨rfl, rfl, last, first⟩⟩

end LoopVariables

/-- The list put in the order of the addresses. -/
def sorted (control : Control D) : Control D :=
  { control with servers := sort control.servers }

/-- The loop variables of the first iteration. -/
def opening (control : Control D) : Option (Balancing D) :=
  loopVariables control (Arithmetic.ofInt 2)

/-- The loop variables of all later iterations, but for the zone table. -/
def settled (control : Control D) : Option (Balancing D) :=
  loopVariables (sorted control) (sorted control).getStDev

/-- The loop has a first iteration, with these variables. -/
def Enters (control : Control D) (s : Balancing D) : Prop :=
  opening control = some s ∧ Continues s

/-- The loop has a second iteration after the first, with these variables. -/
def EntersAgain (control : Control D) (s : Balancing D) : Prop :=
  1 < control.servers.length ∧ settled control = some s ∧ Continues s

omit [Zero D] [Add D] [DecidableLT D] in
theorem Enters.unique {control : Control D} {first second : Balancing D}
    (enters : Enters control first) (other : Enters control second) : first = second :=
  Option.mem_unique enters.1 other.1

omit [DecidableLT D] in
theorem EntersAgain.unique {control : Control D} {first second : Balancing D}
    (again : EntersAgain control first) (other : EntersAgain control second) : first = second :=
  Option.mem_unique again.2.1 other.2.1

theorem writeZone_again {zoneServer written : Fin NZONES → Option Address} {position : Int}
    {server : Address} (done : writeZone zoneServer position server = some written) :
    writeZone written position server = some written := by
  rcases exists_of_writeZone done with ⟨zone, rfl, rfl⟩
  rw [writeZone_natCast, Function.update_idem]

/-- A loop whose list is in the order of the addresses repeats one iteration
until its counter ends it. -/
theorem balanceLoop_settled (remaining : Nat) {s : Balancing D} {control : Control D}
    (inOrder : sort control.servers = control.servers)
    (carried : loopVariables control control.getStDev = some s) :
    balanceLoop remaining s =
      if remaining = 0 ∨ ¬ Continues s then ([], some control)
      else
        match writeZone control.zoneServer s.order.changedZonePosition s.minLoadServer.address with
        | none => ([s.order], none)
        | some zoneServer =>
            (List.replicate remaining s.order, some { control with zoneServer }) := by
  induction remaining generalizing s control with
  | zero =>
      rcases loopVariables_eq_some_iff.mp carried with ⟨rfl, _⟩
      rw [if_pos (Or.inl rfl)]
      rfl
  | succ remaining inductionHypothesis =>
      rcases loopVariables_eq_some_iff.mp carried with ⟨rfl, deviation, last, first⟩
      by_cases continues : Continues s
      · have again : ¬ (remaining + 1 = 0 ∨ ¬ Continues s) := by
          rintro (zero | ends)
          · exact Nat.succ_ne_zero remaining zero
          · exact ends continues
        rw [if_neg again, balanceLoop, if_pos continues]
        cases written : writeZone s.control.zoneServer s.order.changedZonePosition
            s.minLoadServer.address with
        | none => rfl
        | some zoneServer =>
            let control : Control D := { s.control with zoneServer }
            let following : Balancing D :=
              { s with control, standardDev := control.getStDev }
            have carriedOn : loopVariables control control.getStDev = some following :=
              loopVariables_eq_some_iff.mpr ⟨rfl, rfl, last, first⟩
            have sameDeviation : following.standardDev = s.standardDev := deviation.symm
            have continuesOn : Continues following := by
              refine ⟨?_, continues.2⟩
              rw [sameDeviation]
              exact continues.1
            have inOrderOn : sort control.servers = control.servers := inOrder
            have rest := inductionHypothesis inOrderOn carriedOn
            have rewritten : writeZone control.zoneServer following.order.changedZonePosition
                following.minLoadServer.address = some zoneServer := writeZone_again written
            simp only [inOrder, last, first]
            change (s.order :: (balanceLoop remaining following).1,
              (balanceLoop remaining following).2) = _
            rw [rest, rewritten, List.replicate_succ]
            cases remaining with
            | zero => rfl
            | succ remaining =>
                rw [if_neg fun ended => ended.elim (Nat.succ_ne_zero remaining)
                  fun stops => stops continuesOn]
                rfl
      · rw [if_pos (Or.inr continues), balanceLoop, if_neg continues]

/-! ## The six outcomes -/

/-- Everything a balancing can do, with the calls of `zoneChange` it makes
and the state it leaves. -/
inductive Outcome (control : Control D) : List (Order D) → Option (Control D) → Prop where
  | empty (nobody : control.servers = []) : Outcome control [] none
  | idle (s : Balancing D) (opened : opening control = some s) (stops : ¬ Continues s) :
      Outcome control [] (some control)
  | firstOutside (s : Balancing D) (enters : Enters control s)
      (outside : writeZone control.zoneServer s.order.changedZonePosition
        s.minLoadServer.address = none) :
      Outcome control [s.order] none
  | once (s : Balancing D) (enters : Enters control s)
      (zoneServer : Fin NZONES → Option Address)
      (written : writeZone control.zoneServer s.order.changedZonePosition
        s.minLoadServer.address = some zoneServer)
      (ends : ∀ t, ¬ EntersAgain control t) :
      Outcome control [s.order] (some { sorted control with zoneServer })
  | secondOutside (s : Balancing D) (enters : Enters control s)
      (zoneServer : Fin NZONES → Option Address)
      (written : writeZone control.zoneServer s.order.changedZonePosition
        s.minLoadServer.address = some zoneServer)
      (t : Balancing D) (again : EntersAgain control t)
      (outside : writeZone zoneServer t.order.changedZonePosition t.minLoadServer.address = none) :
      Outcome control [s.order, t.order] none
  | repeated (s : Balancing D) (enters : Enters control s)
      (zoneServer : Fin NZONES → Option Address)
      (written : writeZone control.zoneServer s.order.changedZonePosition
        s.minLoadServer.address = some zoneServer)
      (t : Balancing D) (again : EntersAgain control t)
      (final : Fin NZONES → Option Address)
      (rewritten : writeZone zoneServer t.order.changedZonePosition t.minLoadServer.address =
        some final) :
      Outcome control (s.order :: List.replicate (control.servers.length - 1) t.order)
        (some { sorted control with zoneServer := final })

/-- The first iteration of a loop that is entered. -/
theorem balanceLoop_opening {control : Control D} {s : Balancing D} (remaining : Nat)
    (enters : Enters control s) {zoneServer : Fin NZONES → Option Address}
    (written : writeZone control.zoneServer s.order.changedZonePosition s.minLoadServer.address =
      some zoneServer) {t : Balancing D} (carried : settled control = some t) :
    balanceLoop (remaining + 1) s =
      let rest := balanceLoop remaining
        { t with control := { sorted control with zoneServer } }
      (s.order :: rest.1, rest.2) := by
  rcases loopVariables_eq_some_iff.mp enters.1 with ⟨rfl, _⟩
  rcases loopVariables_eq_some_iff.mp carried with ⟨_, deviation, last, first⟩
  have lastSorted : (sort s.control.servers).getLast? = some t.maxLoadServer := last
  have firstSorted : (sort s.control.servers).head? = some t.minLoadServer := first
  rw [balanceLoop, if_pos enters.2, written]
  simp only [lastSorted, firstSorted, deviation]
  rfl

/-- The whole loop after the first iteration. -/
theorem balanceLoop_entered {control : Control D} {s t : Balancing D} (remaining : Nat)
    (enters : Enters control s) {zoneServer : Fin NZONES → Option Address}
    (written : writeZone control.zoneServer s.order.changedZonePosition s.minLoadServer.address =
      some zoneServer) (carried : settled control = some t) :
    balanceLoop (remaining + 1) s =
      if remaining = 0 ∨ ¬ Continues t then ([s.order], some { sorted control with zoneServer })
      else
        match writeZone zoneServer t.order.changedZonePosition t.minLoadServer.address with
        | none => ([s.order, t.order], none)
        | some final =>
            (s.order :: List.replicate remaining t.order,
              some { sorted control with zoneServer := final }) := by
  rcases loopVariables_eq_some_iff.mp carried with ⟨_, deviates, last, first⟩
  let following : Balancing D := { t with control := { sorted control with zoneServer } }
  have carriedOn : loopVariables { sorted control with zoneServer } (sorted control).getStDev =
      some following := loopVariables_eq_some_iff.mpr ⟨rfl, deviates, last, first⟩
  have inOrder : sort { sorted control with zoneServer }.servers =
      { sorted control with zoneServer }.servers := sort_sort control.servers
  rw [balanceLoop_opening remaining enters written carried,
    balanceLoop_settled remaining inOrder carriedOn]
  by_cases ended : remaining = 0 ∨ ¬ Continues t
  · have endedOn : remaining = 0 ∨ ¬ Continues following := ended
    rw [if_pos endedOn, if_pos ended]
  · have iteratesOn : ¬ (remaining = 0 ∨ ¬ Continues following) := ended
    rw [if_neg iteratesOn, if_neg ended]
    cases rewritten : writeZone zoneServer t.order.changedZonePosition
        t.minLoadServer.address with
    | none =>
        have outside : writeZone zoneServer following.order.changedZonePosition
            following.minLoadServer.address = none := rewritten
        rw [outside]
        rfl
    | some final =>
        have inside : writeZone zoneServer following.order.changedZonePosition
            following.minLoadServer.address = some final := rewritten
        rw [inside]
        rfl

theorem balance_of_opening {control : Control D} {s : Balancing D}
    (opened : opening control = some s) :
    balance control = balanceLoop control.servers.length s := by
  rcases loopVariables_eq_some_iff.mp opened with ⟨same, deviation, last, first⟩
  rw [balance, last, first]
  simp only [← same, ← deviation]

omit [LT D] [DecidableLT D] in
theorem exists_settled {control : Control D} (somebody : control.servers ≠ []) :
    ∃ t, settled control = some t := by
  apply exists_loopVariables
  intro emptied
  have lengths := length_sort control.servers
  rw [show sort control.servers = [] from emptied] at lengths
  exact somebody (List.length_eq_zero_iff.mp lengths.symm)

theorem balance_outcome (control : Control D) :
    Outcome control (balance control).1 (balance control).2 := by
  by_cases nobody : control.servers = []
  · have emptied : balance control = ([], none) := by
      simp only [balance, nobody, List.getLast?_nil]
    rw [emptied]
    exact .empty nobody
  · rcases exists_loopVariables (Arithmetic.ofInt 2) nobody with ⟨s, opened⟩
    have same : s.control = control := (loopVariables_eq_some_iff.mp opened).1
    rcases exists_settled nobody with ⟨t, carried⟩
    rcases Nat.exists_eq_succ_of_ne_zero (fun zero => nobody (List.length_eq_zero_iff.mp zero)) with
      ⟨remaining, length⟩
    rw [balance_of_opening opened, length]
    by_cases continues : Continues s
    · have enters : Enters control s := ⟨opened, continues⟩
      cases written : writeZone control.zoneServer s.order.changedZonePosition
          s.minLoadServer.address with
      | none =>
          have stopped : balanceLoop (remaining + 1) s = ([s.order], none) := by
            rw [balanceLoop, if_pos continues, same, written]
          rw [stopped]
          exact .firstOutside s enters written
      | some zoneServer =>
          rw [balanceLoop_entered remaining enters written carried]
          by_cases again : EntersAgain control t
          · have iterates : ¬ (remaining = 0 ∨ ¬ Continues t) := by
              rintro (zero | stops)
              · have several := again.1
                omega
              · exact stops again.2.2
            have count : control.servers.length - 1 = remaining := by omega
            cases rewritten : writeZone zoneServer t.order.changedZonePosition
                t.minLoadServer.address with
            | none =>
                rw [if_neg iterates]
                exact .secondOutside s enters zoneServer written t again rewritten
            | some final =>
                rw [if_neg iterates, ← count]
                exact .repeated s enters zoneServer written t again final rewritten
          · have ended : remaining = 0 ∨ ¬ Continues t := by
              by_cases several : 1 < control.servers.length
              · exact Or.inr fun continuesOn => again ⟨several, carried, continuesOn⟩
              · exact Or.inl (by omega)
            rw [if_pos ended]
            apply Outcome.once s enters zoneServer written
            intro other againOther
            have same : t = other := Option.mem_unique carried againOther.2.1
            subst same
            exact again againOther
    · rw [balanceLoop, if_neg continues, same]
      exact .idle s opened continues

/-- A balancing leaves the servers as they are, in some order. -/
theorem balance_perm {control next : Control D} (done : (balance control).2 = some next) :
    next.servers.Perm control.servers := by
  have outcome := balance_outcome control
  rw [done] at outcome
  generalize (balance control).1 = orders at outcome
  cases outcome with
  | idle => exact List.Perm.refl _
  | once => exact sort_perm control.servers
  | repeated => exact sort_perm control.servers

section Quiet

omit [Zero D] [Add D] [DecidableLT D]

theorem not_enters_of_empty {control : Control D} (nobody : control.servers = [])
    (s : Balancing D) : ¬ Enters control s := by
  intro enters
  have first := (loopVariables_eq_some_iff.mp enters.1).2.2.2
  rw [nobody] at first
  cases first

theorem not_enters_of_idle {control : Control D} {s : Balancing D}
    (opened : opening control = some s) (stops : ¬ Continues s) (other : Balancing D) :
    ¬ Enters control other := by
  intro enters
  have same : s = other := Option.mem_unique opened enters.1
  subst same
  exact stops enters.2

end Quiet

/-- The first iteration, with the variables `s`, writes inside of the zone
table, and a second one, with the variables `t`, follows it. -/
def Follows (control : Control D) (s t : Balancing D) : Prop :=
  writeZone control.zoneServer s.order.changedZonePosition s.minLoadServer.address ≠ none ∧
    EntersAgain control t

/-- A balancing makes no order, or one, or one that is followed by a second one
which is repeated. -/
theorem orders_cases (control : Control D) :
    ((∀ s, ¬ Enters control s) ∧ (balance control).1 = []) ∨
      (∃ s, Enters control s ∧ (∀ t, ¬ Follows control s t) ∧
        (balance control).1 = [s.order]) ∨
      ∃ s, Enters control s ∧ ∃ t, Follows control s t ∧ ∃ more,
        (balance control).1 = s.order :: List.replicate (more + 1) t.order := by
  have outcome := balance_outcome control
  generalize (balance control).1 = orders at outcome ⊢
  generalize (balance control).2 = result at outcome
  cases outcome with
  | empty nobody => exact Or.inl ⟨not_enters_of_empty nobody, rfl⟩
  | idle s opened stops => exact Or.inl ⟨not_enters_of_idle opened stops, rfl⟩
  | firstOutside s enters outside =>
      exact Or.inr (Or.inl ⟨s, enters, fun t follows => follows.1 outside, rfl⟩)
  | once s enters zoneServer written ends =>
      exact Or.inr (Or.inl ⟨s, enters, fun t follows => ends t follows.2, rfl⟩)
  | secondOutside s enters zoneServer written t again outside =>
      have inside := written ▸ Option.some_ne_none zoneServer
      exact Or.inr (Or.inr ⟨s, enters, t, ⟨inside, again⟩, 0, rfl⟩)
  | repeated s enters zoneServer written t again final rewritten =>
      have inside := written ▸ Option.some_ne_none zoneServer
      have several := again.1
      rcases Nat.exists_eq_add_of_lt several with ⟨more, length⟩
      have count : control.servers.length - 1 = more + 1 := by omega
      exact Or.inr (Or.inr ⟨s, enters, t, ⟨inside, again⟩, more, by rw [count]⟩)

theorem mem_orders_iff {control : Control D} {order : Order D} :
    order ∈ (balance control).1 ↔
      ∃ s, Enters control s ∧ (order = s.order ∨ ∃ t, Follows control s t ∧ order = t.order) := by
  rcases orders_cases control with ⟨never, orders⟩ | ⟨s, enters, last, orders⟩ |
    ⟨s, enters, t, follows, more, orders⟩
  · rw [orders]
    constructor
    · intro member
      exact absurd member List.not_mem_nil
    · rintro ⟨s, enters, _⟩
      exact absurd enters (never s)
  · rw [orders, List.mem_singleton]
    constructor
    · intro same
      exact ⟨s, enters, Or.inl same⟩
    · rintro ⟨other, entersOther, same⟩
      rw [← enters.unique entersOther] at same
      rcases same with same | ⟨t, follows, _⟩
      · exact same
      · exact absurd follows (last t)
  · rw [orders, List.mem_cons, List.mem_replicate]
    constructor
    · rintro (same | ⟨_, same⟩)
      · exact ⟨s, enters, Or.inl same⟩
      · exact ⟨s, enters, Or.inr ⟨t, follows, same⟩⟩
    · rintro ⟨other, entersOther, same⟩
      rw [← enters.unique entersOther] at same
      rcases same with same | ⟨u, followsToo, same⟩
      · exact Or.inl same
      · rw [follows.2.unique followsToo.2]
        exact Or.inr ⟨Nat.succ_ne_zero more, same⟩

end Control
end Pxc
