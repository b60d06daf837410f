import Pxc.Control.ZoneCoverage

namespace Pxc
namespace Control

open General

/-!
# How many zones each server gets

When all servers are online, each round gives every server one zone, and the
second loop consists of whole rounds: it ends with the last server of the last
round.  The first loop gives all the zones left over to the first server.  So
the first server has these on top of the equal share of all.
-/

variable {D : Type} [Zero D] {nzones : Nat}

/-- The number of zones sent to a server. -/
def Assignment.share (s : Assignment D nzones) (address : Address) : Nat :=
  (zonesSentTo s.sent address).length

omit [Zero D] in
theorem share_of_concat {s next : Assignment D nzones} {message : Address × SetZoneToServer}
    (sent : next.sent = s.sent ++ [message]) (address : Address) :
    next.share address = s.share address + [message.1].count address := by
  rw [Assignment.share, Assignment.share, sent, zonesSentTo_concat, List.count_singleton]
  by_cases same : message.1 = address
  · rw [if_pos same, if_pos (beq_iff_eq.mpr same), List.length_append]
    rfl
  · have different : ¬ (message.1 == address) = true := fun equal => same (beq_iff_eq.mp equal)
    rw [if_neg same, if_neg different, Nat.add_zero]

/-- The zones left over have all gone to the first server. -/
theorem Dealt.share_eq {fleet : Fleet D nzones} {server : Server D} {i : Nat}
    {s : Assignment D nzones} (dealt : Dealt fleet server i s) (address : Address) :
    s.share address = if server.address = address then i else 0 := by
  rw [Assignment.share, zonesSentTo, List.length_map]
  by_cases same : server.address = address
  · have all : s.sent.filter (fun message => message.1 = address) = s.sent := by
      rw [List.filter_eq_self]
      intro message member
      exact decide_eq_true ((dealt.recipient message member).trans same)
    rw [if_pos same, all, dealt.count]
  · have none : s.sent.filter (fun message => message.1 = address) = [] := by
      rw [List.filter_eq_nil_iff]
      intro message member equal
      exact same ((dealt.recipient message member).symm.trans (of_decide_eq_true equal))
    rw [if_neg same, none]
    rfl

/-- The state of the second loop within its round `rounds`, when the servers
`before` have been visited and all servers are online. -/
structure Sharing (fleet : Fleet D nzones) (base : Address → Nat) (rounds : Nat)
    (before : List (Server D)) (s : Assignment D nzones) : Prop extends Rounding fleet s where
  position : s.zoneIndex =
    fleet.modZonesPerServer + rounds * fleet.servers.length + before.length
  shares : ∀ address, s.share address = base address +
    rounds * (fleet.servers.map Server.address).count address +
      (before.map Server.address).count address

/-- One visit of a round that is not the last to be begun. -/
theorem Sharing.visit {fleet : Fleet D nzones} (startUp : StartUp fleet) {base : Address → Nat}
    {rounds : Nat} {before after : List (Server D)} {server : Server D}
    {s next : Assignment D nzones} (sharing : Sharing fleet base rounds before s)
    (split : fleet.servers = before ++ server :: after) (online : server.online = true)
    (more : rounds < nzones / fleet.servers.length) (visited : visit s server = some next) :
    Sharing fleet base rounds (before ++ [server]) next := by
  have member : server ∈ fleet.servers := by
    rw [split]
    exact List.mem_append_right _ List.mem_cons_self
  have total : fleet.modZonesPerServer + nzones / fleet.servers.length * fleet.servers.length =
      nzones := by
    rw [startUp.modZonesPerServer_eq, Nat.mul_comm, Nat.mod_add_div]
  have place : before.length < fleet.servers.length := by
    rw [split, List.length_append, List.length_cons]
    omega
  have below : s.zoneIndex < nzones := by
    have position := sharing.position
    have rest := Nat.mul_le_mul_right fleet.servers.length (Nat.succ_le_of_lt more)
    rw [Nat.succ_mul] at rest
    omega
  have unreturned : s.returned = false := by
    apply Bool.eq_false_of_not_eq_true
    intro returned
    have full := sharing.ended returned
    omega
  rcases sharing.toRounding.visit (fun _ => below) member with ⟨other, same, rounding, _⟩
  rw [visited] at same
  cases same
  rcases sharing.toIndexed.visit member online unreturned visited with ⟨indexed, sent, _⟩
  refine ⟨rounding, ?_, ?_⟩
  · have length := congrArg List.length sent
    rw [List.length_append, List.length_singleton] at length
    have index := indexed.index
    have indexBefore := sharing.index
    have position := sharing.position
    rw [List.length_append, List.length_singleton]
    omega
  · intro address
    rw [share_of_concat sent, sharing.shares, List.map_append, List.count_append]
    exact Nat.add_assoc _ _ _

/-- A whole round. -/
theorem Sharing.goRound {fleet : Fleet D nzones} (startUp : StartUp fleet)
    (allOnline : ∀ server ∈ fleet.servers, server.online = true) {base : Address → Nat}
    {rounds : Nat} {s next : Assignment D nzones} (sharing : Sharing fleet base rounds [] s)
    (more : rounds < nzones / fleet.servers.length) (rounded : goRound s = some next) :
    Sharing fleet base (rounds + 1) [] next := by
  rw [sharing.goRound_eq] at rounded
  have preserved : ∀ before server after t u, fleet.servers = before ++ server :: after →
      Sharing fleet base rounds before t → Control.visit t server = some u →
      Sharing fleet base rounds (before ++ [server]) u := by
    intro before server after t u split held visited
    have member : server ∈ fleet.servers := by
      rw [split]
      exact List.mem_append_right _ List.mem_cons_self
    exact held.visit startUp split (allOnline server member) more visited
  have whole := foldlM_invariant (Sharing fleet base rounds) fleet.servers sharing preserved
    rounded
  refine ⟨whole.toRounding, ?_, ?_⟩
  · rw [whole.position, Nat.succ_mul, List.length_nil]
    omega
  · intro address
    rw [whole.shares, Nat.succ_mul, List.map_nil, List.count_nil]
    omega

/-- The second loop gives every server its equal share. -/
theorem Sharing.of_ends {fleet : Fleet D nzones} (startUp : StartUp fleet)
    (allOnline : ∀ server ∈ fleet.servers, server.online = true) {base : Address → Nat}
    {s final : Assignment D nzones} (sharing : Sharing fleet base 0 [] s)
    (ended : Ends Remaining Control.goRound s final) :
    Sharing fleet base (nzones / fleet.servers.length) [] final := by
  have length := List.length_pos_iff.mpr startUp.nonempty
  have total : fleet.modZonesPerServer + nzones / fleet.servers.length * fleet.servers.length =
      nzones := by
    rw [startUp.modZonesPerServer_eq, Nat.mul_comm, Nat.mod_add_div]
  have preserved : ∀ t u,
      (∃ rounds ≤ nzones / fleet.servers.length, Sharing fleet base rounds [] t) →
      Remaining t → Control.goRound t = some u →
      ∃ rounds ≤ nzones / fleet.servers.length, Sharing fleet base rounds [] u := by
    rintro t u ⟨rounds, _, held⟩ remaining rounded
    have more : rounds < nzones / fleet.servers.length := by
      have left := held.left remaining.2
      have positive := remaining.1
      have position := held.position
      rw [List.length_nil] at position
      by_contra full
      have reached := Nat.mul_le_mul_right fleet.servers.length (Nat.le_of_not_lt full)
      omega
    exact ⟨rounds + 1, more, held.goRound startUp allOnline more rounded⟩
  rcases ended.invariant _ preserved ⟨0, Nat.zero_le _, sharing⟩ with
    ⟨⟨rounds, within, held⟩, stopped⟩
  have full := held.zoneIndex_eq stopped
  have equal : rounds = nzones / fleet.servers.length := by
    have position := held.position
    rw [List.length_nil] at position
    apply Nat.eq_of_mul_eq_mul_right length
    omega
  rw [← equal]
  exact held

/-- The numbers of zones that the servers of the list have. -/
def Fleet.sizes (fleet : Fleet D nzones) : List Nat :=
  fleet.servers.map fun server => server.distribution.length

/-- The number of zones that a call sends to each server. -/
theorem StartUp.share_eq {fleet : Fleet D nzones} (startUp : StartUp fleet)
    (allOnline : ∀ server ∈ fleet.servers, server.online = true) {front : Server D}
    (first : fleet.servers.head? = some front) {final : Assignment D nzones}
    (assigned : Assigns fleet final) {server : Server D} (member : server ∈ fleet.servers) :
    final.share server.address = nzones / fleet.servers.length +
      if front.address = server.address then nzones % fleet.servers.length else 0 := by
  have online := allOnline front (List.mem_of_mem_head? first)
  rcases (startUp.assigns_iff first).mp assigned with ⟨s, done, ended⟩
  rcases startUp.exists_dealt first (Or.inl online) with ⟨other, same, dealt⟩
  cases Option.mem_unique done same
  let base : Address → Nat := fun address =>
    if front.address = address then fleet.modZonesPerServer else 0
  have sharing : Sharing fleet base 0 [] s := by
    refine ⟨startUp.rounding dealt, ?_, ?_⟩
    · rw [dealt.index, Nat.zero_mul, List.length_nil, Nat.add_zero]
    · intro address
      rw [dealt.share_eq, Nat.zero_mul, List.map_nil, List.count_nil, Nat.add_zero]
  have once : (fleet.servers.map Server.address).count server.address = 1 :=
    List.count_eq_one_of_mem startUp.distinct (List.mem_map_of_mem member)
  rw [(sharing.of_ends startUp allOnline ended).shares, once, List.map_nil, List.count_nil,
    Nat.mul_one, Nat.add_zero, Nat.add_comm]
  simp only [base, startUp.modZonesPerServer_eq]

/-- The first server has the zones left over on top of the equal share. -/
theorem StartUp.sizes_eq {fleet : Fleet D nzones} (startUp : StartUp fleet)
    (allOnline : ∀ server ∈ fleet.servers, server.online = true) {final : Assignment D nzones}
    (assigned : Assigns fleet final) :
    final.sizes = (nzones / fleet.servers.length + nzones % fleet.servers.length) ::
      List.replicate (fleet.servers.length - 1) (nzones / fleet.servers.length) := by
  have someOnline : ∃ server ∈ fleet.servers, server.online = true :=
    ⟨_, List.head_mem startUp.nonempty, allOnline _ (List.head_mem startUp.nonempty)⟩
  have first := List.head?_eq_some_head startUp.nonempty
  have servers : final.servers = fleet.servers.map (Server.loaded final.sent) := by
    rcases startUp.exists_assigns someOnline first
      (Or.inl (allOnline _ (List.head_mem startUp.nonempty))) with ⟨other, also, recorded, _⟩
    rw [also.unique assigned] at recorded
    exact recorded.servers
  have sizes : final.sizes = fleet.servers.map fun server => final.share server.address := by
    rw [Fleet.sizes, servers, List.map_map]
    apply List.map_congr_left
    intro server member
    rw [Function.comp_apply, Server.loaded_distribution, startUp.fresh server member,
      List.nil_append, List.length_map]
    rfl
  rcases List.head?_eq_some_iff.mp first with ⟨rest, split⟩
  have distinct := startUp.distinct
  rw [split, List.map_cons, List.nodup_cons] at distinct
  have frontShare := startUp.share_eq allOnline first assigned (List.head_mem startUp.nonempty)
  rw [if_pos rfl] at frontShare
  have restShares : (rest.map fun server => final.share server.address) =
      List.replicate rest.length (nzones / fleet.servers.length) := by
    rw [List.eq_replicate_iff]
    refine ⟨List.length_map _, ?_⟩
    intro share listed
    rcases List.mem_map.mp listed with ⟨server, member, rfl⟩
    have among : server ∈ fleet.servers := by
      rw [split]
      exact List.mem_cons_of_mem _ member
    have different : (fleet.servers.head startUp.nonempty).address ≠ server.address := by
      intro same
      rw [same] at distinct
      exact distinct.1 (List.mem_map_of_mem member)
    rw [startUp.share_eq allOnline first assigned among, if_neg different, Nat.add_zero]
  have length : fleet.servers.length - 1 = rest.length := by
    rw [split, List.length_cons, Nat.add_sub_cancel]
  have listed : (fleet.servers.map fun server => final.share server.address) =
      final.share (fleet.servers.head startUp.nonempty).address ::
        rest.map fun server => final.share server.address := by
    have mapped := congrArg (List.map fun server => final.share server.address) split
    exact mapped
  rw [sizes, length, ← frontShare, ← restShares, listed]

/-- No two servers differ by more than one zone. -/
def Fleet.IsEven (fleet : Fleet D nzones) : Prop :=
  ∀ first ∈ fleet.sizes, ∀ second ∈ fleet.sizes, first ≤ second + 1

omit [Zero D] in
theorem isEven_iff_of_sizes {fleet : Fleet D nzones} {count share extra : Nat} (some : 0 < count)
    (sizes : fleet.sizes = (share + extra) :: List.replicate (count - 1) share) :
    fleet.IsEven ↔ count = 1 ∨ extra ≤ 1 := by
  rw [Fleet.IsEven, sizes]
  constructor
  · intro even
    by_cases single : count = 1
    · exact Or.inl single
    · right
      have other : share ∈ (share + extra) :: List.replicate (count - 1) share :=
        List.mem_cons_of_mem _ (List.mem_replicate.mpr ⟨by omega, rfl⟩)
      have difference := even _ List.mem_cons_self _ other
      omega
  · rintro (single | little) first memberFirst second memberSecond
    · rw [single, Nat.sub_self, List.replicate_zero, List.mem_singleton] at *
      omega
    · have shares : ∀ size ∈ (share + extra) :: List.replicate (count - 1) share,
          share ≤ size ∧ size ≤ share + extra := by
        intro size member
        rcases List.mem_cons.mp member with rfl | repeated
        · exact ⟨Nat.le_add_right _ _, Nat.le_refl _⟩
        · rw [(List.mem_replicate.mp repeated).2]
          exact ⟨Nat.le_refl _, Nat.le_add_right _ _⟩
      have upper := (shares first memberFirst).2
      have lower := (shares second memberSecond).1
      omega

/-- A call gives every server the equal share of the zones, and the first one
all the zones left over as well.  The servers are thus even when there is one
server, or at most one zone is left over, and otherwise they are not. -/
theorem zoneAssignment_sizes (fleet : Fleet D nzones) (startUp : StartUp fleet)
    (allOnline : ∀ server ∈ fleet.servers, server.online = true) :
    ∃ final, Assigns fleet final ∧
      final.sizes = (nzones / fleet.servers.length + nzones % fleet.servers.length) ::
        List.replicate (fleet.servers.length - 1) (nzones / fleet.servers.length) ∧
      (final.IsEven ↔ fleet.servers.length = 1 ∨ nzones % fleet.servers.length ≤ 1) := by
  have member := List.head_mem startUp.nonempty
  have online := allOnline _ member
  rcases startUp.exists_assigns ⟨_, member, online⟩ (List.head?_eq_some_head startUp.nonempty)
    (Or.inl online) with ⟨final, assigned, _⟩
  have sizes := startUp.sizes_eq allOnline assigned
  exact ⟨final, assigned, sizes,
    isEven_iff_of_sizes (List.length_pos_iff.mpr startUp.nonempty) sizes⟩

theorem zoneAssignment_sizes_threeServers :
    ∃ final, Assigns (threeServers true) final ∧ final.sizes = [2, 1, 1] ∧ final.IsEven := by
  rcases zoneAssignment_sizes (threeServers true) (threeServers_startUp true)
    threeServers_online with ⟨final, assigned, sizes, even⟩
  exact ⟨final, assigned, sizes, even.mpr (Or.inr (by decide))⟩

/-- Five servers for the four zones. -/
def fiveServers : Fleet ℚ NZONES where
  servers := [⟨10, 0, [], 0, true⟩, ⟨11, 1, [], 0, true⟩, ⟨12, 2, [], 0, true⟩,
    ⟨13, 3, [], 0, true⟩, ⟨14, 4, [], 0, true⟩]
  numberServers := 5
  zoneServer := fun _ => none

/-- All four zones go to the first of five servers. -/
theorem zoneAssignment_not_even :
    ¬ ∀ (nzones : Nat) (fleet : Fleet ℚ nzones), StartUp fleet →
      (∀ server ∈ fleet.servers, server.online = true) →
        ∃ final, Assigns fleet final ∧ final.IsEven := by
  intro always
  have startUp : StartUp fiveServers := by
    refine ⟨by decide, List.cons_ne_nil _ _, rfl, ?_, ?_⟩
    · change [10, 11, 12, 13, 14].Nodup
      decide
    · intro server member
      simp only [fiveServers, List.mem_cons, List.not_mem_nil, or_false] at member
      rcases member with rfl | rfl | rfl | rfl | rfl <;> rfl
  have allOnline : ∀ server ∈ fiveServers.servers, server.online = true := by
    intro server member
    simp only [fiveServers, List.mem_cons, List.not_mem_nil, or_false] at member
    rcases member with rfl | rfl | rfl | rfl | rfl <;> rfl
  rcases always NZONES fiveServers startUp allOnline with ⟨final, assigned, even⟩
  have sizes := startUp.sizes_eq allOnline assigned
  rcases (isEven_iff_of_sizes (List.length_pos_iff.mpr startUp.nonempty) sizes).mp even with
    single | little
  · exact absurd single (by decide)
  · exact absurd little (by decide)

end Control
end Pxc
