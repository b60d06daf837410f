import Pxc.Control.AddressTables
import Pxc.Control.ReplyMask
import Pxc.Control.ZoneCoverage

namespace Pxc
namespace Control

open General

/-!
# Control's start

`main` takes the number of game servers from its argument, lowers it to the
number of game servers in the database, and lowers it once more for every
server that it cannot connect to.  The servers that it did connect to keep the
numbers they had before as their ids.  The number is then a divisor, when the
zones are assigned, and the number of ones in the mask of the servers to wait
for.

A server is connected or not, as `connects` says of its number.  What was in
the memory of a new object is a parameter.
-/

def DEF_GAME_SERVERS : Nat := 3
def MAX_GAME_SERVERS : Nat := 50

/-- The number of game servers that `main` takes from its argument, if it does
not return at once.  The argument is read by `atoi`. -/
def requestedServers (argument : Option Int) : Option Nat :=
  match argument with
  | none => some DEF_GAME_SERVERS
  | some aux =>
      if aux < 1 then none
      else if aux ≤ MAX_GAME_SERVERS then some aux.toNat
      else some MAX_GAME_SERVERS

variable {D : Type}

/-- `new Server(i, ipServers[i], portServers[i])`, in new memory. -/
def newServer (allocated : Nat → Address) (memory : Nat → D) (i : Nat) : Server D where
  address := allocated i
  id := i
  distribution := []
  totalLoad := memory i
  online := true

/-- One iteration of the loop over the servers' numbers, with the list and
`numberServers`. -/
def connectServer (connects : Nat → Bool) (created : Nat → Server D)
    (s : List (Server D) × Int) (i : Nat) : List (Server D) × Int :=
  if connects i then (s.1 ++ [created i], s.2) else (s.1, s.2 - 1)

/-- `Control::initializeConnectionsAndServerList`, for the game servers. -/
def initializeConnectionsAndServerList (connects : Nat → Bool) (created : Nat → Server D)
    (numberServers : Nat) : List (Server D) × Int :=
  (List.range numberServers).foldl (connectServer connects created) ([], numberServers)

/-- Control when `main` assigns the zones. -/
def connectedFleet (connects : Nat → Bool) (created : Nat → Server D) (numberServers : Nat) :
    Fleet D NZONES :=
  let s := initializeConnectionsAndServerList connects created numberServers
  { servers := s.1, numberServers := s.2, zoneServer := fun _ => none }

/-- The server's number is one that `main` tries, and it connects. -/
def Connects (connects : Nat → Bool) (numberServers i : Nat) : Prop :=
  i < numberServers ∧ connects i = true

theorem foldl_connectServer (connects : Nat → Bool) (created : Nat → Server D)
    (numbers : List Nat) (s : List (Server D) × Int) :
    numbers.foldl (connectServer connects created) s =
      (s.1 ++ (numbers.filter connects).map created,
        s.2 - ((numbers.filter fun i => !connects i).length : Int)) := by
  induction numbers generalizing s with
  | nil => simp only [List.foldl_nil, List.filter_nil, List.map_nil, List.append_nil,
      List.length_nil, Int.natCast_zero, Int.sub_zero]
  | cons i rest inductionHypothesis =>
      rw [List.foldl_cons, inductionHypothesis, connectServer]
      cases connected : connects i with
      | true =>
          simp only [if_true, List.filter_cons, connected, Bool.not_true, Bool.false_eq_true,
            if_false, List.map_cons, List.append_assoc, List.cons_append, List.nil_append]
      | false =>
          simp only [Bool.false_eq_true, if_false, List.filter_cons, connected, Bool.not_false,
            if_true, List.length_cons, Int.natCast_add, Int.natCast_one, Prod.mk.injEq, true_and]
          omega

/-- The servers that connect, in the order of their numbers. -/
def connected (connects : Nat → Bool) (numberServers : Nat) : List Nat :=
  (List.range numberServers).filter connects

theorem length_connected_le (connects : Nat → Bool) (numberServers : Nat) :
    (connected connects numberServers).length ≤ numberServers := by
  have bound := List.length_filter_le connects (List.range numberServers)
  rwa [List.length_range] at bound

theorem initialize_eq (connects : Nat → Bool) (created : Nat → Server D) (numberServers : Nat) :
    initializeConnectionsAndServerList connects created numberServers =
      ((connected connects numberServers).map created,
        ((connected connects numberServers).length : Int)) := by
  have divided := List.length_eq_length_filter_add connects (l := List.range numberServers)
  rw [initializeConnectionsAndServerList, foldl_connectServer, connected, List.nil_append]
  rw [List.length_range] at divided
  simp only [Prod.mk.injEq, true_and]
  omega

/-- The first servers connect, and no others. -/
def ConnectsFirst (connects : Nat → Bool) (numberServers first : Nat) : Prop :=
  first ≤ numberServers ∧ ∀ i < numberServers, connects i = true ↔ i < first

theorem ConnectsFirst.connects_iff {connects : Nat → Bool} {numberServers first : Nat}
    (isFirst : ConnectsFirst connects numberServers first) (i : Nat) :
    Connects connects numberServers i ↔ i < first := by
  constructor
  · rintro ⟨tried, isConnected⟩
    exact (isFirst.2 i tried).mp isConnected
  · intro below
    have tried := Nat.lt_of_lt_of_le below isFirst.1
    exact ⟨tried, (isFirst.2 i tried).mpr below⟩

theorem connected_of_first {connects : Nat → Bool} {numberServers first : Nat}
    (isFirst : ConnectsFirst connects numberServers first) :
    connected connects numberServers = List.range first := by
  rcases Nat.exists_eq_add_of_le isFirst.1 with ⟨others, rfl⟩
  have all : (List.range first).filter connects = List.range first := by
    rw [List.filter_eq_self]
    intro i member
    have below := List.mem_range.mp member
    exact (isFirst.2 i (Nat.lt_add_right others below)).mpr below
  have nobody : ((List.range others).map (first + ·)).filter connects = [] := by
    rw [List.filter_eq_nil_iff]
    intro i member isConnected
    rcases List.mem_map.mp member with ⟨offset, isOffset, rfl⟩
    have below := (isFirst.2 _ (Nat.add_lt_add_left (List.mem_range.mp isOffset) first)).mp
      isConnected
    omega
  rw [connected, List.range_add, List.filter_append, all, nobody, List.append_nil]

theorem requestedServers_le {argument : Option Int} {requested : Nat}
    (accepted : requestedServers argument = some requested) : requested ≤ MAX_GAME_SERVERS := by
  unfold requestedServers at accepted
  split at accepted
  · cases accepted
    decide
  · split at accepted
    · cases accepted
    · split at accepted
      · cases accepted
        omega
      · cases accepted
        exact Nat.le_refl _

theorem countServers_le {argument : Option Int} {requested : Nat}
    (accepted : requestedServers argument = some requested) (rows : List AddressRow) :
    countServers requested rows ≤ MAX_GAME_SERVERS :=
  Nat.le_trans (Nat.min_le_left _ _) (requestedServers_le accepted)

/-- The shift of a number of servers is by a bit position for 1 to 32
servers. -/
theorem shift_lt_iff {count : Nat} (bound : count ≤ MAX_GAME_SERVERS) :
    (shift count).toNat < 32 ↔ 1 ≤ count ∧ count ≤ 32 := by
  rw [shift, BitVec.toNat_ofInt]
  unfold MAX_GAME_SERVERS at bound
  omega

theorem startMask_bits {count : Nat} (bound : count ≤ MAX_GAME_SERVERS) (positive : 1 ≤ count)
    (fits : count ≤ 32) : ∃ mask, startMask count = some mask ∧
      ∀ i, mask.getLsbD i = true ↔ i < count := by
  have amount : (shift count).toNat = 32 - count := by
    rw [shift, BitVec.toNat_ofInt]
    omega
  rw [startMask, if_pos ((shift_lt_iff bound).mpr ⟨positive, fits⟩)]
  refine ⟨_, rfl, fun i => ?_⟩
  rw [amount]
  exact getLsbD_allOnes_shiftRight fits i

/-! ## The start -/

variable [Zero D] [Add D]

/-- The replies empty the mask exactly when every connected server has sent its
last one. -/
def EmptiedByLast (connects : Nat → Bool) (numberServers : Nat) (servers : List (Server D))
    (mask : BitVec 32) : Prop :=
  ∀ replies : List (ServerLoad D), ∃ left cleared,
    handleReplies replies servers mask = some (left, cleared) ∧
      (cleared = 0 ↔ ∀ i, Connects connects numberServers i →
        ∃ reply ∈ replies, reply.idServer = i ∧ reply.remainingZones = 0)

/-- What the start is for: the number of servers can be a divisor, the list is
not empty, the shift is by a bit position, the mask has one bit for each
server that is connected, and after the zones have been assigned it is emptied
by the last replies. -/
structure StartsWell (connects : Nat → Bool) (created : Nat → Server D)
    (numberServers : Nat) : Prop where
  divides : (connectedFleet connects created numberServers).numberServers ≠ 0
  nonempty : (connectedFleet connects created numberServers).servers ≠ []
  shifts : (shift (connectedFleet connects created numberServers).numberServers).toNat < 32
  waits : ∃ mask, startMask (connectedFleet connects created numberServers).numberServers =
    some mask ∧ (∀ i, mask.getLsbD i = true ↔ Connects connects numberServers i) ∧
      ∃ final, Assigns (connectedFleet connects created numberServers) final ∧
        EmptiedByLast connects numberServers final.servers mask

section Connected

variable {connects : Nat → Bool} {allocated : Nat → Address} {memory : Nat → D}
  {numberServers first : Nat}

omit [Zero D] [Add D] in
theorem connectedFleet_servers (created : Nat → Server D) :
    (connectedFleet connects created numberServers).servers =
      (connected connects numberServers).map created := by
  rw [connectedFleet, initialize_eq]

omit [Zero D] [Add D] in
theorem connectedFleet_numberServers (created : Nat → Server D) :
    (connectedFleet connects created numberServers).numberServers =
      ((connected connects numberServers).length : Int) := by
  rw [connectedFleet, initialize_eq]

omit [Zero D] [Add D] in
theorem connectedFleet_ids :
    (connectedFleet connects (newServer allocated memory) numberServers).servers.map Server.id =
      (connected connects numberServers).map Int.ofNat := by
  rw [connectedFleet_servers, List.map_map]
  rfl

omit [Zero D] [Add D] in
/-- Control has connected to a server before it assigns the zones. -/
theorem connectedFleet_startUp (distinct : Function.Injective allocated)
    (somebody : connected connects numberServers ≠ []) :
    StartUp (connectedFleet connects (newServer allocated memory) numberServers) where
  zones := by decide
  nonempty := by
    rw [connectedFleet_servers]
    exact fun nobody => somebody (List.map_eq_nil_iff.mp nobody)
  counted := by rw [connectedFleet_servers, connectedFleet_numberServers, List.length_map]
  distinct := by
    rw [connectedFleet_servers, List.map_map]
    exact (List.nodup_range.filter _).map distinct
  fresh := by
    intro server member
    rw [connectedFleet_servers] at member
    rcases List.mem_map.mp member with ⟨i, _, rfl⟩
    rfl

omit [Add D] in
/-- The zones are assigned, and the list keeps the ids of the servers. -/
theorem exists_assigned (distinct : Function.Injective allocated)
    (somebody : connected connects numberServers ≠ []) :
    ∃ final, Assigns (connectedFleet connects (newServer allocated memory) numberServers) final ∧
      final.servers.map Server.id = (connected connects numberServers).map Int.ofNat := by
  let fleet := connectedFleet connects (newServer allocated memory) numberServers
  have startUp : StartUp fleet := connectedFleet_startUp distinct somebody
  have online : ∀ server ∈ fleet.servers, server.online = true := by
    intro server member
    rw [connectedFleet_servers] at member
    rcases List.mem_map.mp member with ⟨i, _, rfl⟩
    rfl
  have isFirst := List.head?_eq_some_head startUp.nonempty
  have isOnline := online _ (List.head_mem startUp.nonempty)
  rcases startUp.exists_assigns ⟨_, List.head_mem startUp.nonempty, isOnline⟩ isFirst
    (Or.inl isOnline) with ⟨final, assigned, recorded, _⟩
  refine ⟨final, assigned, recorded.ids.trans ?_⟩
  exact connectedFleet_ids

omit [Zero D] in
/-- Replies empty a mask of the ids of the servers as they should. -/
theorem emptiedByLast {servers : List (Server D)} {mask : BitVec 32} (fits : first ≤ 32)
    (isFirst : ConnectsFirst connects numberServers first)
    (ids : servers.map Server.id = (List.range first).map Int.ofNat)
    (bits : ∀ i, mask.getLsbD i = true ↔ i < first) :
    EmptiedByLast connects numberServers servers mask := by
  have listed (id : Int) : id ∈ servers.map Server.id ↔ ∃ i < first, id = Int.ofNat i := by
    rw [ids, List.mem_map]
    constructor
    · rintro ⟨i, member, rfl⟩
      exact ⟨i, List.mem_range.mp member, rfl⟩
    · rintro ⟨i, below, rfl⟩
      exact ⟨i, List.mem_range.mpr below, rfl⟩
  have inside : ∀ server ∈ servers, HasBit server.id := by
    intro server member
    rcases (listed server.id).mp (List.mem_map_of_mem member) with ⟨i, below, same⟩
    rw [same]
    exact ⟨Int.natCast_nonneg i, by simp only [Int.ofNat_eq_natCast]; omega⟩
  intro replies
  rcases handleReplies_spec inside replies mask with ⟨left, cleared, handled, _, after⟩
  refine ⟨left, cleared, handled, ?_⟩
  rw [eq_zero_iff_getLsbD]
  simp only [after, bits, isFirst.connects_iff, not_and, not_not]
  constructor
  · intro emptied i below
    rcases emptied i below with ⟨reply, member, finishes, same⟩
    exact ⟨reply, member, same, finishes.1⟩
  · intro replied i below
    rcases replied i below with ⟨reply, member, same, last⟩
    refine ⟨reply, member, ⟨last, ?_⟩, same⟩
    rw [same]
    exact (listed i).mpr ⟨i, below, rfl⟩

end Connected

/-- Control starts well if and only if 1 to 32 servers connect, and these are
the first ones that it tries. -/
theorem startsWell_iff {argument : Option Int} {requested : Nat}
    (accepted : requestedServers argument = some requested) (rows : List AddressRow)
    (connects : Nat → Bool) {allocated : Nat → Address} (distinct : Function.Injective allocated)
    (memory : Nat → D) :
    StartsWell connects (newServer allocated memory) (countServers requested rows) ↔
      ∃ first, 1 ≤ first ∧ first ≤ 32 ∧
        ConnectsFirst connects (countServers requested rows) first := by
  have bound := countServers_le accepted rows
  generalize countServers requested rows = numberServers at bound ⊢
  have atMost := Nat.le_trans (length_connected_le connects numberServers) bound
  constructor
  · rintro ⟨divides, _, shifts, mask, started, bits, _⟩
    rw [connectedFleet_numberServers] at divides shifts started
    have range := (shift_lt_iff atMost).mp shifts
    refine ⟨_, range.1, range.2, length_connected_le connects numberServers, ?_⟩
    intro i tried
    rcases startMask_bits atMost range.1 range.2 with ⟨other, also, ones⟩
    have same : mask = other := Option.mem_unique started also
    rw [← ones, ← same, bits, Connects]
    exact (and_iff_right tried).symm
  · rintro ⟨first, positive, fits, isFirst⟩
    have list := connected_of_first isFirst
    have somebody : connected connects numberServers ≠ [] := by
      intro nobody
      rw [nobody] at list
      have lengths := congrArg List.length list
      rw [List.length_range] at lengths
      exact absurd lengths (Nat.ne_of_lt positive)
    have startUp : StartUp (connectedFleet connects (newServer allocated memory) numberServers) :=
      connectedFleet_startUp distinct somebody
    have count :
        (connectedFleet connects (newServer allocated memory) numberServers).numberServers =
          (first : Int) := by
      rw [connectedFleet_numberServers, list, List.length_range]
    have firstBound : first ≤ MAX_GAME_SERVERS := Nat.le_trans isFirst.1 bound
    rcases startMask_bits firstBound positive fits with ⟨mask, started, bits⟩
    have zones : ∃ final,
        Assigns (connectedFleet connects (newServer allocated memory) numberServers) final ∧
          final.servers.map Server.id = (connected connects numberServers).map Int.ofNat :=
      exists_assigned distinct somebody
    rcases zones with ⟨final, assigned, ids⟩
    rw [list] at ids
    refine ⟨?_, startUp.nonempty, ?_, mask, ?_, ?_, final, assigned,
      emptiedByLast fits isFirst ids bits⟩
    · rw [count]
      omega
    · rw [count]
      exact (shift_lt_iff firstBound).mpr ⟨positive, fits⟩
    · rw [count]
      exact started
    · intro i
      rw [bits, isFirst.connects_iff]

/-- Two game servers are asked for and listed, and both connect. -/
theorem startsWell_two :
    StartsWell (fun _ => true) (newServer id fun _ => (0 : ℚ))
      (countServers 2 [localRow, localRow]) := by
  have accepted : requestedServers (some 2) = some 2 := by decide
  refine (startsWell_iff accepted _ _ Function.injective_id _).mpr
    ⟨2, by decide, by decide, by decide, ?_⟩
  intro i tried
  exact ⟨fun _ => tried, fun _ => rfl⟩

/-- The first of two game servers does not connect: Control waits for it and
not for the other one. -/
theorem start_waits_for_other_server :
    requestedServers (some 2) = some 2 ∧
      ¬ StartsWell (fun i => decide (i = 1)) (newServer id fun _ => (0 : ℚ))
        (countServers 2 [localRow, localRow]) := by
  refine ⟨by decide, fun starts => ?_⟩
  rcases starts.waits with ⟨mask, started, bits, _⟩
  have one : startMask (connectedFleet (fun i => decide (i = 1)) (newServer id fun _ => (0 : ℚ))
      (countServers 2 [localRow, localRow])).numberServers = some 1#32 := by
    decide +kernel
  rw [Option.mem_unique started one] at bits
  have first := ((bits 0).mp (by decide)).2
  exact absurd first (by decide)

end Control
end Pxc
