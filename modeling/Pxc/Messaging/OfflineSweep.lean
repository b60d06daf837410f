import Pxc.General.Iterators
import Pxc.General.Loops

namespace Pxc
namespace Messaging

open General

/-!
# Sweeping the offline connections

Before each accept a `ConnectionManager` goes through the list of the
connections it has accepted.  It drops the null pointers, closes and drops the
connections that are offline, and keeps the others.  After each erasure the
iterator is moved back, so that the increment of the loop does not miss the
next entry.

Nothing lies in front of the first entry.  When that one is erased, the
iterator has no place to be moved back to.
-/

section Sweep

variable {Connection : Type} (isLinkOnline : Connection → Bool)

/-- The iterator in `conexions`, and the connections closed so far. -/
structure Sweep (Connection : Type) where
  it : Iterator (Option Connection)
  closed : List Connection

/-- The condition `it != conexions.end()`. -/
def Sweep.Continues (sweep : Sweep Connection) : Prop :=
  ¬ sweep.it.AtEnd

instance : DecidablePred fun sweep : Sweep Connection => sweep.Continues :=
  fun sweep => inferInstanceAs (Decidable (¬ sweep.it.AtEnd))

/-- `it = conexions.erase(it); --it`. -/
def Sweep.eraseAndBack (sweep : Sweep Connection) : Option (Sweep Connection) :=
  (sweep.it.erase.bind Iterator.back).map fun it => { sweep with it }

/-- The body of the loop. -/
def Sweep.visit (sweep : Sweep Connection) : Option (Sweep Connection) :=
  sweep.it.get.bind fun entry =>
    match entry with
    | none => sweep.eraseAndBack
    | some connection =>
        if isLinkOnline connection then some sweep
        else { sweep with closed := sweep.closed ++ [connection] }.eraseAndBack

/-- The body and the increment `++it`. -/
def Sweep.iterate (sweep : Sweep Connection) : Option (Sweep Connection) :=
  (sweep.visit isLinkOnline).bind fun visited =>
    visited.it.forward.map fun it => { visited with it }

/-- `ConnectionManager::checkConexionsOffline` ends like this. -/
def checkConexionsOffline (conexions : List (Option Connection)) (final : Sweep Connection) :
    Prop :=
  Ends Sweep.Continues (Sweep.iterate isLinkOnline) ⟨Iterator.begin conexions, []⟩ final

/-- The entry stays in the list. -/
def Stays : Option Connection → Bool
  | none => false
  | some connection => isLinkOnline connection

/-- The connection of an entry, if there is one and it is offline. -/
def offlineConnection : Option Connection → List Connection
  | none => []
  | some connection => if isLinkOnline connection then [] else [connection]

/-- The connections in the list that are offline, in its order. -/
def offlineConnections (conexions : List (Option Connection)) : List Connection :=
  conexions.flatMap (offlineConnection isLinkOnline)

/-- The sweep comes to its end without leaving the list, has closed each
offline connection once, and leaves the online connections in their order. -/
def SweepsExactly (conexions : List (Option Connection)) : Prop :=
  ∃ final, checkConexionsOffline isLinkOnline conexions final ∧
    final.closed = offlineConnections isLinkOnline conexions ∧
    final.it.elements = conexions.filter (Stays isLinkOnline)

variable {isLinkOnline} {front rest : List (Option Connection)} {entry : Option Connection}
  {closed : List Connection}

theorem iterate_of_stays (stays : Stays isLinkOnline entry = true) :
    Sweep.iterate isLinkOnline ⟨⟨front, entry :: rest⟩, closed⟩ =
      some ⟨⟨entry :: front, rest⟩, closed⟩ := by
  cases entry with
  | none => cases stays
  | some connection =>
      have online : isLinkOnline connection = true := stays
      simp only [Sweep.iterate, Sweep.visit, Iterator.get_cons, Option.bind_some, online, if_true,
        Iterator.forward_cons, Option.map_some]

/-- Any other entry is erased, and closed if it is a connection.  The
iterator gets past it only if something lies in front. -/
theorem iterate_of_not_stays (goes : Stays isLinkOnline entry = false) :
    Sweep.iterate isLinkOnline ⟨⟨front, entry :: rest⟩, closed⟩ =
      if front = [] then none
      else some ⟨⟨front, rest⟩, closed ++ offlineConnection isLinkOnline entry⟩ := by
  have moved : ∀ closed : List Connection,
      ((⟨⟨front, entry :: rest⟩, closed⟩ : Sweep Connection).eraseAndBack.bind fun visited =>
          visited.it.forward.map fun it => { visited with it }) =
        if front = [] then none else some ⟨⟨front, rest⟩, closed⟩ := by
    intro closed
    cases front <;> rfl
  cases entry with
  | none =>
      rw [offlineConnection, List.append_nil]
      exact moved closed
  | some connection =>
      have offline : isLinkOnline connection = false := goes
      simp only [Sweep.iterate, Sweep.visit, Iterator.get_cons, Option.bind_some, offline,
        Bool.false_eq_true, if_false, offlineConnection]
      exact moved (closed ++ [connection])

theorem offlineConnection_of_stays (stays : Stays isLinkOnline entry = true) :
    offlineConnection isLinkOnline entry = [] := by
  cases entry with
  | none => cases stays
  | some connection => exact if_pos stays

/-- With something in front, the sweep gets through what is left. -/
theorem sweeps_rest (isLinkOnline : Connection → Bool) (rest : List (Option Connection))
    {front : List (Option Connection)} (something : front ≠ []) (closed : List Connection) :
    Ends Sweep.Continues (Sweep.iterate isLinkOnline) ⟨⟨front, rest⟩, closed⟩
      ⟨⟨(rest.filter (Stays isLinkOnline)).reverse ++ front, []⟩,
        closed ++ offlineConnections isLinkOnline rest⟩ := by
  induction rest generalizing front closed with
  | nil =>
      rw [offlineConnections, List.flatMap_nil, List.append_nil]
      exact ends_of_not_continues fun again => again rfl
  | cons entry rest inductionHypothesis =>
      have again : Sweep.Continues (⟨⟨front, entry :: rest⟩, closed⟩ : Sweep Connection) :=
        List.cons_ne_nil entry rest
      rw [offlineConnections, List.flatMap_cons, ← offlineConnections]
      cases stays : Stays isLinkOnline entry with
      | true =>
          have passed := inductionHypothesis (List.cons_ne_nil entry front) closed
          rw [offlineConnection_of_stays stays, List.nil_append, List.filter_cons_of_pos stays,
            List.reverse_cons, List.append_assoc, List.singleton_append]
          exact passed.iterate again (iterate_of_stays stays)
      | false =>
          have erased := inductionHypothesis something
            (closed ++ offlineConnection isLinkOnline entry)
          rw [List.filter_cons_of_neg (by rw [stays]; exact Bool.false_ne_true),
            ← List.append_assoc]
          apply erased.iterate again
          rw [iterate_of_not_stays stays, if_neg something]

/-- The sweep is exact if the list is empty or begins with an online
connection, and never otherwise. -/
theorem sweepsExactly_iff (isLinkOnline : Connection → Bool)
    (conexions : List (Option Connection)) :
    SweepsExactly isLinkOnline conexions ↔
      ∀ entry ∈ conexions.head?, Stays isLinkOnline entry = true := by
  cases conexions with
  | nil =>
      refine iff_of_true ?_ fun _ member => by cases member
      exact ⟨_, ends_of_not_continues fun again => again rfl, rfl, rfl⟩
  | cons entry rest =>
      have again : Sweep.Continues (⟨Iterator.begin (entry :: rest), []⟩ : Sweep Connection) :=
        List.cons_ne_nil entry rest
      simp only [List.head?_cons, Option.mem_some_iff, forall_eq']
      constructor
      · rintro ⟨final, ended, _⟩
        by_contra goes
        refine not_ends_of_undefined again ?_ ended
        exact (iterate_of_not_stays (eq_false_of_ne_true goes)).trans (if_pos rfl)
      · intro stays
        have swept := sweeps_rest isLinkOnline rest (List.cons_ne_nil entry []) []
        refine ⟨_, swept.iterate again (iterate_of_stays stays), ?_, ?_⟩
        · rw [offlineConnections, offlineConnections, List.flatMap_cons,
            offlineConnection_of_stays stays]
        · rw [Iterator.elements, List.append_nil, List.reverse_append, List.reverse_reverse,
            List.filter_cons_of_pos stays]
          rfl

/-- A single offline connection: the iterator is moved in front of it. -/
theorem sweep_leaves_list : ¬ SweepsExactly (fun _ : Nat => false) [some 0] := by
  rintro ⟨final, ended, _⟩
  have again : Sweep.Continues (⟨Iterator.begin [some 0], []⟩ : Sweep Nat) :=
    List.cons_ne_nil (some 0) []
  exact not_ends_of_undefined again rfl ended

end Sweep

end Messaging
end Pxc
