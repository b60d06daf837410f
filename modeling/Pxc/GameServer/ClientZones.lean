import Mathlib.Algebra.Field.Rat
import Pxc.General.Runs
import Pxc.GameServer.Server

namespace Pxc
namespace GameServer

open General
open General.FiniteMap

/-!
# Clients and the users of the zones

The zone of a client is kept in the table of clients.  The zone's own object
has a set of users, which a client is taken out of when it is deleted.  But no
operation ever puts a client into that set.  The users of every hosted zone
are therefore none, and the two agree as long as no client is in a hosted
zone.
-/

variable {D : Type} [Zero D]

/-- The operations that place clients and zones. -/
inductive Operation where
  | addClient (clientId clientZone : Int)
  | delClient (clientId : Int)
  | startZone (zoneId : Int)
  | stopZone (zoneId : Int) (force : Bool)
  deriving DecidableEq, Repr

def operate (gameServer : GameServer D) : Operation → Option (GameServer D)
  | .addClient clientId clientZone => some (gameServer.addClient clientId clientZone)
  | .delClient clientId => gameServer.delClient clientId
  | .startZone zoneId => some (gameServer.startZone zoneId)
  | .stopZone zoneId force => some (gameServer.stopZone zoneId force)

/-- The users of every hosted zone are the clients that the table maps to it. -/
def Consistent (gameServer : GameServer D) : Prop :=
  ∀ (zoneId : Int) (handler : ZoneHandler D), gameServer.mZones[zoneId]? = some handler →
    ∀ clientId : Int, clientId ∈ handler.zone.mUsers ↔ gameServer.mClients[clientId]? = some zoneId

/-- No hosted zone has users. -/
def Userless (gameServer : GameServer D) : Prop :=
  ∀ (zoneId : Int) (handler : ZoneHandler D), gameServer.mZones[zoneId]? = some handler →
    handler.zone.mUsers = ∅

/-- No client is in a hosted zone. -/
def Apart (gameServer : GameServer D) : Prop :=
  ∀ zoneId clientId : Int, gameServer.Hosts zoneId →
    gameServer.mClients[clientId]? ≠ some zoneId

/-- The operation puts no client into a hosted zone, and hosts no zone that a
client is in. -/
def Separates (gameServer : GameServer D) : Operation → Prop
  | .addClient _ clientZone => ¬ gameServer.Hosts clientZone
  | .startZone zoneId =>
      gameServer.Hosts zoneId ∨ ∀ clientId : Int, gameServer.mClients[clientId]? ≠ some zoneId
  | .delClient _ => True
  | .stopZone _ _ => True

omit [Zero D] in
theorem consistent_iff_apart {gameServer : GameServer D} (userless : gameServer.Userless) :
    gameServer.Consistent ↔ gameServer.Apart := by
  constructor
  · intro consistent zoneId clientId hosted placed
    rcases exists_of_mem hosted with ⟨handler, found⟩
    have user := (consistent zoneId handler found clientId).mpr placed
    rw [userless zoneId handler found] at user
    exact absurd user (Finset.notMem_empty _)
  · intro apart zoneId handler found clientId
    rw [userless zoneId handler found]
    constructor
    · intro user
      exact absurd user (Finset.notMem_empty _)
    · intro placed
      exact absurd placed (apart zoneId clientId (mem_of_getElem? found))

omit [Zero D] in
theorem getElem?_addClient (gameServer : GameServer D) (clientId clientZone other : Int) :
    (gameServer.addClient clientId clientZone).mClients[other]? =
      if clientId = other then some clientZone else gameServer.mClients[other]? := by
  change (gameServer.mClients.insert clientId clientZone)[other]? = _
  rw [Std.ExtTreeMap.getElem?_insert]
  simp only [Std.compare_eq_iff_eq]

omit [Zero D] in
/-- A deletion leaves the zones as they are, when they have no users. -/
theorem Userless.exists_delClient {gameServer : GameServer D} (userless : gameServer.Userless)
    (clientId : Int) :
    ∃ next, gameServer.delClient clientId = some next ∧ next.mZones = gameServer.mZones ∧
      ∀ other : Int, next.mClients[other]? =
        if clientId = other then none else gameServer.mClients[other]? := by
  unfold GameServer.delClient
  cases placed : gameServer.mClients[clientId]? with
  | none =>
      refine ⟨gameServer, rfl, rfl, ?_⟩
      intro other
      split
      · next same => rw [← same, placed]
      · rfl
  | some clientZone =>
      cases found : gameServer.mZones[clientZone]? with
      | none =>
          simp only [found]
          exact ⟨_, rfl, rfl, getElem?_erase_eq _ _⟩
      | some handler =>
          have same : handler.zone.delUser clientId = some handler.zone := by
            rw [Zone.delUser, userless clientZone handler found]
            exact if_neg (Finset.notMem_empty _)
          simp only [found, same, Option.map_some]
          refine ⟨_, rfl, ?_, getElem?_erase_eq _ _⟩
          apply Std.ExtTreeMap.ext_getElem?
          intro zoneId
          change (gameServer.mZones.insert clientZone handler)[zoneId]? = _
          rw [Std.ExtTreeMap.getElem?_insert]
          split
          · next equal =>
            rw [← Std.compare_eq_iff_eq.mp equal, found]
          · rfl

omit [Zero D] in
theorem Userless.delClient {gameServer next : GameServer D} (userless : gameServer.Userless)
    {clientId : Int} (deleted : gameServer.delClient clientId = some next) :
    next.mZones = gameServer.mZones ∧
      ∀ other : Int, next.mClients[other]? =
        if clientId = other then none else gameServer.mClients[other]? := by
  rcases userless.exists_delClient clientId with ⟨same, done, kept⟩
  rw [Option.mem_unique deleted done]
  exact kept

theorem mClients_startZone (gameServer : GameServer D) (zoneId : Int) :
    (gameServer.startZone zoneId).mClients = gameServer.mClients := by
  unfold GameServer.startZone
  split
  · rfl
  · rfl

omit [Zero D] in
theorem stopZone_cases (gameServer : GameServer D) (zoneId : Int) (force : Bool) :
    gameServer.stopZone zoneId force = gameServer ∨
      gameServer.stopZone zoneId force =
        { gameServer with mZones := gameServer.mZones.erase zoneId } := by
  unfold GameServer.stopZone
  split
  · exact Or.inl rfl
  · split
    · exact Or.inr rfl
    · exact Or.inl rfl

/-- No operation gives a zone a user. -/
theorem Userless.operate {gameServer next : GameServer D} (userless : gameServer.Userless)
    {operation : Operation} (done : gameServer.operate operation = some next) :
    next.Userless := by
  cases operation with
  | addClient clientId clientZone =>
      cases done
      exact userless
  | delClient clientId =>
      rw [Userless, (userless.delClient done).1]
      exact userless
  | startZone zoneId =>
      cases done
      intro other handler found
      unfold GameServer.startZone at found
      split at found
      · exact userless other handler found
      · change (gameServer.mZones.insert zoneId _)[other]? = _ at found
        rw [Std.ExtTreeMap.getElem?_insert] at found
        split at found
        · cases found
          rfl
        · exact userless other handler found
  | stopZone zoneId force =>
      cases done
      rcases stopZone_cases gameServer zoneId force with same | same
      · rw [same]
        exact userless
      · rw [same]
        intro other handler found
        change (gameServer.mZones.erase zoneId)[other]? = _ at found
        rw [getElem?_erase_eq] at found
        split at found
        · cases found
        · exact userless other handler found

/-- Without users in the zones every operation is defined. -/
theorem Userless.exists_operate {gameServer : GameServer D} (userless : gameServer.Userless)
    (operation : Operation) : ∃ next, gameServer.operate operation = some next := by
  cases operation with
  | addClient clientId clientZone => exact ⟨_, rfl⟩
  | delClient clientId =>
      rcases userless.exists_delClient clientId with ⟨next, done, _⟩
      exact ⟨next, done⟩
  | startZone zoneId => exact ⟨_, rfl⟩
  | stopZone zoneId force => exact ⟨_, rfl⟩

/-- An operation keeps clients and hosted zones apart exactly when it does not
bring one to the other. -/
theorem apart_operate_iff {gameServer next : GameServer D} (userless : gameServer.Userless)
    (apart : gameServer.Apart) {operation : Operation}
    (done : gameServer.operate operation = some next) :
    next.Apart ↔ gameServer.Separates operation := by
  cases operation with
  | addClient clientId clientZone =>
      cases done
      constructor
      · intro apartNext hosted
        apply apartNext clientZone clientId hosted
        rw [getElem?_addClient, if_pos rfl]
      · intro elsewhere zoneId other hosted placed
        rw [getElem?_addClient] at placed
        split at placed
        · cases placed
          exact elsewhere hosted
        · exact apart zoneId other hosted placed
  | delClient clientId =>
      rcases userless.delClient done with ⟨zones, clients⟩
      refine ⟨fun _ => trivial, ?_⟩
      intro _ zoneId other hosted placed
      rw [Hosts, zones] at hosted
      rw [clients] at placed
      split at placed
      · cases placed
      · exact apart zoneId other hosted placed
  | startZone zoneId =>
      cases done
      have clients := mClients_startZone gameServer zoneId
      constructor
      · intro apartNext
        right
        intro clientId placed
        apply apartNext zoneId clientId (hosts_startZone.mpr (Or.inl rfl))
        rw [clients]
        exact placed
      · intro separate other clientId hosted placed
        rw [clients] at placed
        rcases hosts_startZone.mp hosted with rfl | already
        · rcases separate with before | nobody
          · exact apart zoneId clientId before placed
          · exact nobody clientId placed
        · exact apart other clientId already placed
  | stopZone zoneId force =>
      cases done
      refine ⟨fun _ => trivial, ?_⟩
      intro _ other clientId hosted placed
      rcases stopZone_cases gameServer zoneId force with same | same
      · rw [same] at hosted placed
        exact apart other clientId hosted placed
      · rw [same] at hosted placed
        exact apart other clientId (mem_erase_iff.mp hosted).2 placed

/-- Along every run, the clients and the users of the hosted zones agree as
long as no operation brings a client and a hosted zone together. -/
theorem consistent_iff_separates (operations : List Operation) :
    AtEach operate (fun _ gameServer operation => ∀ next : GameServer D,
        gameServer.operate operation = some next → next.Consistent) fresh operations ↔
      AtEach operate (fun _ gameServer operation => gameServer.Separates operation)
        (fresh : GameServer D) operations := by
  have nothing : ∀ zoneId : Int, ¬ (fresh : GameServer D).Hosts zoneId :=
    fun _ => Std.ExtTreeMap.not_mem_empty
  refine atEach_iff (fun _ => True) (fun _ gameServer => gameServer.Userless ∧ gameServer.Apart)
    (fun _ _ _ => trivial) ?_ ?_ ?_ trivial
  · refine ⟨?_, fun zoneId _ hosted => absurd hosted (nothing zoneId)⟩
    intro zoneId handler found
    exact absurd (mem_of_getElem? found) (nothing zoneId)
  · rintro before gameServer operation _ ⟨userless, apart⟩
    rcases userless.exists_operate operation with ⟨next, done⟩
    rw [← apart_operate_iff userless apart done, ← consistent_iff_apart (userless.operate done)]
    constructor
    · intro consistent
      exact consistent next done
    · intro consistent other also
      rw [← Option.mem_unique done also]
      exact consistent
  · rintro before gameServer operation next _ ⟨userless, apart⟩ separates done
    exact ⟨userless.operate done, (apart_operate_iff userless apart done).mpr separates⟩

/-- A client is added to a zone that has been started: the zone does not get
to know it. -/
theorem consistent_fails :
    ¬ ∀ operations, AtEach operate (fun _ gameServer operation => ∀ next : GameServer ℚ,
      gameServer.operate operation = some next → next.Consistent) fresh operations := by
  intro always
  have consistent := always [.startZone 3, .addClient 1 3] [.startZone 3] (.addClient 1 3) []
    _ rfl rfl _ rfl
  have users := (consistent 3 (ZoneHandler.create 3).start rfl 1).mpr rfl
  cases users

end GameServer
end Pxc
