import Pxc.General.Loops
import Pxc.General.Masks
import Pxc.Control.LoadCollection

namespace Pxc
namespace Control

open General

/-!
# The mask and the replies

The mask of the servers that Control waits for is a word with one bit for each
id.  A reply clears the bit of its server when no zones remain, provided that
the server is in the list, and the list keeps its ids.  The replies of a round
therefore leave the bits of the servers without a last reply.
-/

variable {D : Type} [Add D]

/-- The reply is the last one of a server in the list. -/
def Finishes (servers : List (Server D)) (reply : ServerLoad D) : Prop :=
  reply.remainingZones = 0 ∧ reply.idServer ∈ servers.map Server.id

/-- The calls of `ServerLoadRcvd::exec` for some replies, one after the
other. -/
def handleReplies (replies : List (ServerLoad D)) (servers : List (Server D))
    (mask : BitVec 32) : Option (List (Server D) × BitVec 32) :=
  replies.foldlM (fun (servers, mask) reply => ServerLoadRcvd.exec reply servers mask)
    (servers, mask)

theorem handleReplies_cons (reply : ServerLoad D) (rest : List (ServerLoad D))
    (servers : List (Server D)) (mask : BitVec 32) :
    handleReplies (reply :: rest) servers mask =
      (ServerLoadRcvd.exec reply servers mask).bind fun (servers, mask) =>
        handleReplies rest servers mask :=
  rfl

omit [Add D] in
theorem exists_clearBit {id : Int} (inside : HasBit id) (mask : BitVec 32) :
    ∃ cleared, clearBit mask id = some cleared ∧ ∀ i : Nat,
      cleared.getLsbD i = true ↔ mask.getLsbD i = true ∧ id ≠ i := by
  have range : 0 ≤ id ∧ id < 32 := inside
  rw [clearBit, if_pos range]
  refine ⟨_, rfl, fun i => ?_⟩
  have position : i ≠ id.toNat ↔ id ≠ i := by
    omega
  rw [getLsbD_clear, position]

/-- A reply that is not the last one of a server in the list leaves the mask. -/
theorem exec_of_not_finishes {servers : List (Server D)} {reply : ServerLoad D}
    (goesOn : ¬ Finishes servers reply) (mask : BitVec 32) :
    ∃ left, ServerLoadRcvd.exec reply servers mask = some (left, mask) ∧
      left.map Server.id = servers.map Server.id := by
  induction servers with
  | nil => exact ⟨[], rfl, rfl⟩
  | cons server rest inductionHypothesis =>
      have goesOnLater : ¬ Finishes rest reply :=
        fun finishes => goesOn ⟨finishes.1, List.mem_cons_of_mem _ finishes.2⟩
      rcases inductionHypothesis goesOnLater with ⟨left, done, ids⟩
      rw [ServerLoadRcvd.exec, done]
      by_cases found : server.id = reply.idServer
      · have remain : ¬ reply.remainingZones = 0 :=
          fun last => goesOn ⟨last, List.mem_cons.mpr (Or.inl found.symm)⟩
        rw [if_pos found]
        simp only [if_neg remain, Option.map_some]
        exact ⟨_, rfl, congrArg (server.id :: ·) ids⟩
      · rw [if_neg found]
        exact ⟨_, rfl, congrArg (server.id :: ·) ids⟩

/-- The last reply of a server in the list clears its bit, once. -/
theorem exec_of_finishes {servers : List (Server D)} {reply : ServerLoad D}
    (finishes : Finishes servers reply) {mask cleared : BitVec 32}
    (clears : clearBit mask reply.idServer = some cleared) :
    ∃ left, ServerLoadRcvd.exec reply servers mask = some (left, cleared) ∧
      left.map Server.id = servers.map Server.id := by
  induction servers with
  | nil => exact absurd finishes.2 List.not_mem_nil
  | cons server rest inductionHypothesis =>
      rw [ServerLoadRcvd.exec]
      by_cases found : server.id = reply.idServer
      · rw [if_pos found]
        simp only [if_pos finishes.1, clears, Option.map_some]
        exact ⟨_, rfl, rfl⟩
      · have later : Finishes rest reply :=
          ⟨finishes.1, (List.mem_cons.mp finishes.2).resolve_left (Ne.symm found)⟩
        rcases inductionHypothesis later with ⟨left, done, ids⟩
        rw [if_neg found, done]
        exact ⟨_, rfl, congrArg (server.id :: ·) ids⟩

/-- A reply is handled if the bit of its server lies in the mask. -/
theorem exists_exec (servers : List (Server D)) {reply : ServerLoad D}
    (inside : HasBit reply.idServer) (mask : BitVec 32) :
    ∃ left cleared, ServerLoadRcvd.exec reply servers mask = some (left, cleared) := by
  by_cases finishes : Finishes servers reply
  · rcases exists_clearBit inside mask with ⟨cleared, clears, _⟩
    rcases exec_of_finishes finishes clears with ⟨left, done, _⟩
    exact ⟨left, cleared, done⟩
  · rcases exec_of_not_finishes finishes mask with ⟨left, done, _⟩
    exact ⟨left, mask, done⟩

/-- One reply, with the bits it leaves. -/
theorem exec_spec {servers : List (Server D)} (inside : ∀ server ∈ servers, HasBit server.id)
    (reply : ServerLoad D) (mask : BitVec 32) :
    ∃ left cleared, ServerLoadRcvd.exec reply servers mask = some (left, cleared) ∧
      left.map Server.id = servers.map Server.id ∧ ∀ i : Nat,
        cleared.getLsbD i = true ↔
          mask.getLsbD i = true ∧ ¬ (Finishes servers reply ∧ reply.idServer = i) := by
  by_cases finishes : Finishes servers reply
  · rcases List.mem_map.mp finishes.2 with ⟨server, member, same⟩
    rcases exists_clearBit (same ▸ inside server member) mask with ⟨cleared, clears, bits⟩
    rcases exec_of_finishes finishes clears with ⟨left, done, ids⟩
    refine ⟨left, cleared, done, ids, fun i => ?_⟩
    rw [bits, and_iff_right finishes]
  · rcases exec_of_not_finishes finishes mask with ⟨left, done, ids⟩
    refine ⟨left, mask, done, ids, fun i => ?_⟩
    exact ⟨fun set => ⟨set, fun both => finishes both.1⟩, And.left⟩

/-- Any number of replies. -/
theorem handleReplies_spec {servers : List (Server D)}
    (inside : ∀ server ∈ servers, HasBit server.id) (replies : List (ServerLoad D))
    (mask : BitVec 32) :
    ∃ left cleared, handleReplies replies servers mask = some (left, cleared) ∧
      left.map Server.id = servers.map Server.id ∧ ∀ i : Nat,
        cleared.getLsbD i = true ↔
          mask.getLsbD i = true ∧
            ¬ ∃ reply ∈ replies, Finishes servers reply ∧ reply.idServer = i := by
  induction replies generalizing servers mask with
  | nil =>
      refine ⟨servers, mask, rfl, rfl, fun i => ?_⟩
      simp only [List.not_mem_nil, false_and, exists_false, not_false_eq_true, and_true]
  | cons reply rest inductionHypothesis =>
      rcases exec_spec inside reply mask with ⟨left, cleared, done, ids, bits⟩
      have insideLeft : ∀ server ∈ left, HasBit server.id := by
        intro server member
        have listed : server.id ∈ servers.map Server.id := ids ▸ List.mem_map_of_mem member
        rcases List.mem_map.mp listed with ⟨other, isListed, same⟩
        exact same ▸ inside other isListed
      rcases inductionHypothesis insideLeft cleared with
        ⟨final, after, handled, idsAfter, bitsAfter⟩
      refine ⟨final, after, ?_, idsAfter.trans ids, fun i => ?_⟩
      · rw [handleReplies_cons, done]
        exact handled
      · simp only [bitsAfter, bits, List.exists_mem_cons_iff, Finishes, ids, not_or, and_assoc]

/-- Replies none of which is a last one leave the mask. -/
theorem handleReplies_of_not_finishes {servers : List (Server D)} {replies : List (ServerLoad D)}
    (goOn : ∀ reply ∈ replies, reply.remainingZones ≠ 0) (mask : BitVec 32) :
    ∃ left, handleReplies replies servers mask = some (left, mask) ∧
      left.map Server.id = servers.map Server.id := by
  induction replies generalizing servers with
  | nil => exact ⟨servers, rfl, rfl⟩
  | cons reply rest inductionHypothesis =>
      have goesOn : ¬ Finishes servers reply :=
        fun finishes => goOn reply List.mem_cons_self finishes.1
      rcases exec_of_not_finishes goesOn mask with ⟨left, done, ids⟩
      rcases inductionHypothesis fun other member => goOn other (List.mem_cons_of_mem _ member) with
        ⟨final, handled, idsAfter⟩
      refine ⟨final, ?_, idsAfter.trans ids⟩
      rw [handleReplies_cons, done]
      exact handled

theorem handleReplies_concat (replies : List (ServerLoad D)) (reply : ServerLoad D)
    (servers : List (Server D)) (mask : BitVec 32) :
    handleReplies (replies ++ [reply]) servers mask =
      (handleReplies replies servers mask).bind fun (servers, mask) =>
        ServerLoadRcvd.exec reply servers mask := by
  rw [handleReplies, foldlM_concat]
  rfl

end Control
end Pxc
