import Pxc.General.Runs
import Pxc.Control.Balance

namespace Pxc
namespace Control

open General

/-!
# Who owns a zone

A zone belongs to the server that has it in its distribution, and the zone
table leads to that server.  A balancing orders a zone to move and writes the
new server into the table, but it leaves the two distributions as they are.
So the two structures agree afterwards only when the table did not change:
when the loop was not entered, or when each entry that was overwritten
already led to the server written into it.

The theorem at the end is about any number of balancings, with loads that
change in any way between them.
-/

variable {D : Type} [Zero D] [Add D] [Arithmetic D] [LT D] [DecidableLT D]

/-- Every zone is in the distribution of exactly one server of the list, and
the table leads to that server. -/
def Owned (control : Control D) : Prop :=
  ∀ zone : Fin NZONES, ∃ server ∈ control.servers, server.Holds (zone : Nat) ∧
    (∀ other ∈ control.servers, other.Holds (zone : Nat) → other = server) ∧
    control.zoneServer zone = some server.address

instance [DecidableEq D] (server : Server D) (zone : Int) : Decidable (server.Holds zone) :=
  inferInstanceAs (Decidable (∃ entry ∈ server.distribution, entry.zone = zone))

instance [DecidableEq D] (control : Control D) : Decidable (Owned control) :=
  inferInstanceAs (Decidable (∀ zone : Fin NZONES, ∃ server ∈ control.servers,
    server.Holds (zone : Nat) ∧
      (∀ other ∈ control.servers, other.Holds (zone : Nat) → other = server) ∧
      control.zoneServer zone = some server.address))

/-- The balancing loop leaves every entry of the table as it was.  When it is
entered, the entry of the first zone already leads to the first server of the
list, or is overwritten again; when it is entered again, the entry of the
later zone already leads to the server with the lowest address. -/
def Harmless (control : Control D) : Prop :=
  ∀ s, Enters control s → ∃ zone : Fin NZONES,
    posMinLoadZone s.maxLoadServer.distribution = (zone : Nat) ∧
      (((∀ t, ¬ EntersAgain control t) ∧
          control.zoneServer zone = some s.minLoadServer.address) ∨
        ∃ t, EntersAgain control t ∧ ∃ later : Fin NZONES,
          posMinLoadZone t.maxLoadServer.distribution = (later : Nat) ∧
            control.zoneServer later = some t.minLoadServer.address ∧
            (zone = later ∨ control.zoneServer zone = some s.minLoadServer.address))

section Table

omit [Zero D] [Add D] [Arithmetic D] [LT D] [DecidableLT D]

/-- With the same servers, the zones stay owned exactly when the table is the
same. -/
theorem Owned.iff_of_same_servers {control : Control D} (owned : Owned control)
    (next : Control D) (same : ∀ server, server ∈ next.servers ↔ server ∈ control.servers) :
    Owned next ↔ next.zoneServer = control.zoneServer := by
  constructor
  · intro ownedAfter
    funext zone
    rcases owned zone with ⟨server, _, _, only, entry⟩
    rcases ownedAfter zone with ⟨after, member, holds, _, entryAfter⟩
    rw [entryAfter, entry, only after ((same after).mp member) holds]
  · intro table zone
    rcases owned zone with ⟨server, member, holds, only, entry⟩
    exact ⟨server, (same server).mpr member, holds,
      fun other found => only other ((same other).mp found), table ▸ entry⟩

theorem Owned.servers_ne_nil {control : Control D} (owned : Owned control) :
    control.servers ≠ [] := by
  rcases owned ⟨0, by decide⟩ with ⟨server, member, _⟩
  exact List.ne_nil_of_mem member

/-- Two writes leave a table as it was exactly when the last one changes
nothing, and neither does the first unless it is overwritten. -/
theorem update_update_eq_iff (zoneServer : Fin NZONES → Option Address) (zone later : Fin NZONES)
    (first second : Option Address) :
    Function.update (Function.update zoneServer zone first) later second = zoneServer ↔
      zoneServer later = second ∧ (zone = later ∨ zoneServer zone = first) := by
  by_cases same : zone = later
  · subst same
    rw [Function.update_idem, Function.update_eq_self_iff]
    exact ⟨fun equal => ⟨equal.symm, Or.inl rfl⟩, fun both => both.1.symm⟩
  · constructor
    · intro kept
      have atLater := congrFun kept later
      have atZone := congrFun kept zone
      rw [Function.update_self] at atLater
      rw [Function.update_of_ne same, Function.update_self] at atZone
      exact ⟨atLater.symm, Or.inr atZone.symm⟩
    · rintro ⟨rfl, equal | rfl⟩
      · exact absurd equal same
      · rw [Function.update_eq_self, Function.update_eq_self]

end Table

theorem writeZone_ne_none {zoneServer : Fin NZONES → Option Address} {position : Int}
    {zone : Fin NZONES} (selected : position = (zone : Nat)) (server : Address) :
    writeZone zoneServer position server ≠ none := by
  rw [selected, writeZone_natCast]
  exact Option.some_ne_none _

theorem zone_unique {position : Int} {zone other : Fin NZONES}
    (selected : position = (zone : Nat)) (also : position = (other : Nat)) : zone = other :=
  Fin.ext (Int.ofNat_inj.mp (selected.symm.trans also))

/-- One balancing of owned zones. -/
theorem Owned.balance_iff {control : Control D} (owned : Owned control) :
    (∃ next, (balance control).2 = some next ∧ Owned next) ↔ Harmless control := by
  have outcome := balance_outcome control
  generalize (balance control).1 = orders at outcome
  generalize (balance control).2 = result at outcome ⊢
  have leaves : ∀ zoneServer : Fin NZONES → Option Address,
      (∃ next, some { sorted control with zoneServer } = some next ∧ Owned next) ↔
        zoneServer = control.zoneServer := by
    intro zoneServer
    simp only [Option.some.injEq, exists_eq_left']
    exact owned.iff_of_same_servers { sorted control with zoneServer } fun server => mem_sort
  cases outcome with
  | empty nobody => exact absurd nobody owned.servers_ne_nil
  | idle s opened stops =>
      refine ⟨fun _ s' enters => ?_, fun _ => ⟨control, rfl, owned⟩⟩
      exact absurd enters (not_enters_of_idle opened stops s')
  | firstOutside s enters outside =>
      refine ⟨fun ⟨_, undefined, _⟩ => (nomatch undefined), fun harmless => ?_⟩
      rcases harmless s enters with ⟨zone, selected, _⟩
      exact absurd outside (writeZone_ne_none selected _)
  | once s enters zoneServer written ends =>
      rcases exists_of_writeZone written with ⟨zone, selected, rfl⟩
      rw [leaves, Function.update_eq_self_iff]
      constructor
      · intro kept s' enters'
        have same := enters.unique enters'
        subst same
        exact ⟨zone, selected, Or.inl ⟨ends, kept.symm⟩⟩
      · intro harmless
        rcases harmless s enters with ⟨zone', selected', ⟨_, kept⟩ | ⟨t, again, _⟩⟩
        · have same := zone_unique selected selected'
          subst same
          exact kept.symm
        · exact absurd again (ends t)
  | secondOutside s enters zoneServer written t again outside =>
      refine ⟨fun ⟨_, undefined, _⟩ => (nomatch undefined), fun harmless => ?_⟩
      rcases harmless s enters with ⟨_, _, ⟨ends, _⟩ | ⟨t', again', later, selected, _⟩⟩
      · exact absurd again (ends t)
      · have same := again.unique again'
        subst same
        exact absurd outside (writeZone_ne_none selected _)
  | repeated s enters zoneServer written t again final rewritten =>
      rcases exists_of_writeZone written with ⟨zone, selected, rfl⟩
      rcases exists_of_writeZone rewritten with ⟨later, selectedLater, rfl⟩
      rw [leaves, update_update_eq_iff]
      constructor
      · intro kept s' enters'
        have same := enters.unique enters'
        subst same
        exact ⟨zone, selected, Or.inr ⟨t, again, later, selectedLater, kept.1, kept.2⟩⟩
      · intro harmless
        rcases harmless s enters with
          ⟨zone', selected', ⟨ends, _⟩ | ⟨t', again', later', selectedLater', kept⟩⟩
        · exact absurd again (ends t)
        · have same := again.unique again'
          subst same
          have sameZone := zone_unique selected selected'
          subst sameZone
          have sameLater := zone_unique selectedLater selectedLater'
          subst sameLater
          exact kept

/-- What changes the list or the table: new loads, from whatever replies, the
sorting before a balancing, and a balancing. -/
inductive Event (D : Type) where
  | loads (load : Address → Nat → D) (totalLoad : Address → D)
  | sortByLoad
  | balance

section Loads

omit [Zero D] [Add D] [Arithmetic D] [LT D] [DecidableLT D]

/-- The server with other loads of its zones. -/
def Server.withLoads (server : Server D) (load : Address → Nat → D) (totalLoad : Address → D) :
    Server D :=
  { server with
    distribution := server.distribution.mapIdx fun position entry =>
      { entry with load := load server.address position }
    totalLoad := totalLoad server.address }

theorem Server.withLoads_holds_iff {server : Server D} {load : Address → Nat → D}
    {totalLoad : Address → D} {zone : Int} :
    (server.withLoads load totalLoad).Holds zone ↔ server.Holds zone := by
  unfold Server.Holds Server.withLoads
  simp only [List.mem_mapIdx]
  constructor
  · rintro ⟨_, ⟨position, inside, rfl⟩, same⟩
    exact ⟨_, List.getElem_mem inside, same⟩
  · rintro ⟨entry, member, same⟩
    rcases List.getElem_of_mem member with ⟨position, inside, rfl⟩
    exact ⟨_, ⟨position, inside, rfl⟩, same⟩

theorem Owned.withLoads {control : Control D} (owned : Owned control)
    (load : Address → Nat → D) (totalLoad : Address → D) :
    Owned { control with
      servers := control.servers.map fun server => server.withLoads load totalLoad } := by
  intro zone
  rcases owned zone with ⟨server, member, holds, only, entry⟩
  refine ⟨server.withLoads load totalLoad, List.mem_map_of_mem member,
    Server.withLoads_holds_iff.mpr holds, fun other found holdsOther => ?_, entry⟩
  rcases List.mem_map.mp found with ⟨before, memberBefore, rfl⟩
  rw [only before memberBefore (Server.withLoads_holds_iff.mp holdsOther)]

end Loads

def step (control : Control D) : Event D → Option (Control D)
  | .loads load totalLoad => some { control with
      servers := control.servers.map fun server => server.withLoads load totalLoad }
  | .sortByLoad => some { control with servers := sortByLoad control.servers }
  | .balance => (balance control).2

/-- The zones are owned after every event of a run if and only if every
balancing of the run leaves the zone table as it was. -/
theorem zones_owned_iff_harmless {start : Control D} (owned : Owned start)
    (events : List (Event D)) :
    AtEach step (fun _ control event => ∃ next, step control event = some next ∧ Owned next)
        start events ↔
      AtEach step (fun _ control event => event = .balance → Harmless control) start events := by
  have agree : ∀ (control : Control D) (event : Event D), Owned control →
      ((∃ next, step control event = some next ∧ Owned next) ↔
        (event = .balance → Harmless control)) := by
    intro control event ownedNow
    cases event with
    | loads load totalLoad =>
        exact ⟨fun _ impossible => (nomatch impossible),
          fun _ => ⟨_, rfl, ownedNow.withLoads load totalLoad⟩⟩
    | sortByLoad =>
        refine ⟨fun _ impossible => (nomatch impossible), fun _ => ⟨_, rfl, ?_⟩⟩
        exact (ownedNow.iff_of_same_servers { control with servers := sortByLoad control.servers }
          fun server => mem_sortByLoad).mpr rfl
    | balance =>
        exact ⟨fun kept _ => ownedNow.balance_iff.mp kept,
          fun harmless => ownedNow.balance_iff.mpr (harmless rfl)⟩
  refine atEach_iff (fun _ => True) (fun _ control => Owned control)
    (fun _ _ _ => trivial) owned ?_ ?_ trivial
  · intro before control event _ ownedNow
    exact agree control event ownedNow
  · intro before control event next _ ownedNow harmless stepped
    rcases (agree control event ownedNow).mpr harmless with ⟨other, reached, ownedAfter⟩
    have same : next = other := Option.mem_unique stepped reached
    subst same
    exact ownedAfter

/-- One server with all zones. -/
def alone : Control ℚ where
  servers :=
    [{ address := 1, id := 0,
       distribution := [⟨0, 1 / 4⟩, ⟨1, 1 / 4⟩, ⟨2, 1 / 4⟩, ⟨3, 1 / 4⟩], totalLoad := 1,
       online := true }]
  numberServers := 1
  zoneServer _ := some 1

/-- A server that is alone keeps its zones. -/
theorem zones_owned_by_one_server :
    AtEach step (fun _ control event => ∃ next, step control event = some next ∧ Owned next)
      alone [.sortByLoad, .balance] := by
  apply (zones_owned_iff_harmless (by decide +kernel) _).mpr
  refine atEach_cons.mpr ⟨fun impossible => (nomatch impossible), fun next stepped => ?_⟩
  cases stepped
  refine atEach_cons.mpr ⟨fun _ s enters => ?_, fun _ _ => atEach_nil⟩
  rcases loopVariables_eq_some_iff.mp enters.1 with ⟨_, _, last, first⟩
  have same : s.maxLoadServer = s.minLoadServer := Option.mem_unique last first
  exact absurd (congrArg Server.address same) enters.2.2.2

/-- Two servers with two zones each; the last one has the zones 0 and 1. -/
def crossed : Control ℚ where
  servers :=
    [{ address := 1, id := 0, distribution := [⟨2, 1 / 2⟩, ⟨3, 1 / 2⟩], totalLoad := 1,
       online := true },
      { address := 2, id := 1, distribution := [⟨0, 1 / 2⟩, ⟨1, 1 / 2⟩], totalLoad := 1,
        online := true }]
  numberServers := 2
  zoneServer zone := some (if zone.val < 2 then 2 else 1)

/-- The table leads from zone 0 to a server that does not have it. -/
theorem zones_not_owned_after_balance :
    Owned crossed ∧
      ¬ AtEach step (fun _ control event => ∃ next, step control event = some next ∧ Owned next)
        crossed [.balance] := by
  refine ⟨by decide +kernel, fun held => ?_⟩
  rcases held [] .balance [] crossed rfl rfl with ⟨next, stepped, owned⟩
  have result : (balance crossed).2.map (fun control => decide (Owned control)) = some false := by
    decide +kernel
  change (balance crossed).2 = some next at stepped
  rw [stepped, Option.map_some, Option.some.injEq] at result
  exact of_decide_eq_false result owned

end Control
end Pxc
