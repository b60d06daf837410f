import Pxc.Router.Instructions
import Pxc.Router.Reachability

namespace Pxc
namespace Router

open General

/-!
# A client's handshake

A client names itself and its token, and is to be attached and answered with
its zone when the token is right.  The message for this executes exactly that,
but the listener for clients executes no message: it passes every one on to
the users of the server the message is meant for, which is server -1.  So a
client with the right token is neither attached nor answered.
-/

variable {router next : Router} {mUserId mToken : Int} {c : Connection}

/-- The message is the answer to a handshake, with type id 201. -/
def Sending.IsConnectClient : Sending → Prop
  | .connectCLientSend _ _ _ => True
  | _ => False

instance : DecidablePred Sending.IsConnectClient
  | .operation _ => .isFalse id
  | .getServerIpSend _ _ => .isFalse id
  | .connectCLientSend _ _ _ => .isTrue trivial

/-- What a handshake does.  With the user's token, the connection becomes the
user's and is answered once, with the user's zone.  Otherwise the router stays
as it is, and nobody is answered. -/
structure Handshake (router : Router) (mUserId mToken : Int) (c : Connection) (next : Router)
    (sendings : List Sending) : Prop where
  accepted : ∀ user, router.findUser mUserId = some user → user.mToken = mToken →
    (∃ attached, next.findUser mUserId = some attached ∧ attached.mConnection = some c) ∧
      sendings.filter (fun sending => sending.IsConnectClient) =
        [.connectCLientSend c mUserId user.mZone]
  refused : (∀ user, router.findUser mUserId = some user → user.mToken ≠ mToken) →
    next = router ∧ ∀ sending ∈ sendings, ¬ sending.IsConnectClient

/-- What the listener does with every message: the router stays as it is, and
only what the router's operations send is sent. -/
theorem clientListener_eq_some_iff {received : Instruction} {sendings : List Sending} :
    ClientListener.callbackFunction router (some received) c = some (next, sendings) ↔
      next = router ∧ ∃ outputs, sendings = outputs.map .operation ∧
        router.sendToServerUsers (-1) received.transferable = some outputs := by
  simp only [ClientListener.callbackFunction, Instruction.targetId, Option.bind_eq_bind,
    Option.bind_eq_some_iff, Option.pure_def, Option.some.injEq, Prod.mk.injEq]
  constructor
  · intro called
    rcases called with ⟨outputs, sent, sameRouter, sameSendings⟩
    exact ⟨sameRouter.symm, outputs, sameSendings.symm, sent⟩
  · intro called
    rcases called with ⟨sameRouter, outputs, sameSendings, sent⟩
    exact ⟨outputs, sent, sameRouter.symm, sameSendings.symm⟩

/-- The router's operations never send the answer to a handshake. -/
theorem not_isConnectClient_of_operation {outputs : List Output} {sending : Sending}
    (member : sending ∈ outputs.map Sending.operation) : ¬ sending.IsConnectClient := by
  rcases List.mem_map.mp member with ⟨output, _, same⟩
  subst same
  exact id

/-- In every state of the router, the listener completes the handshake that a
client asks for if and only if the client has not the token of a user, and
nothing was deleted on the way to the users of server -1. -/
theorem client_handshake_iff :
    (∃ next sendings,
        ClientListener.callbackFunction router (Instruction.create 200 [mUserId, mToken]) c =
          some (next, sendings) ∧
        Handshake router mUserId mToken c next sendings) ↔
      (∀ user, router.findUser mUserId = some user → user.mToken ≠ mToken) ∧
        ∀ pointer, router.mServers[(-1 : Int)]? = some pointer →
          router.CanSendToServer pointer := by
  have made : Instruction.create 200 [mUserId, mToken] =
      some (.connectUserRcvd mUserId mToken) := rfl
  rw [made]
  constructor
  · intro completed
    rcases completed with ⟨next, sendings, called, handshake⟩
    rcases clientListener_eq_some_iff.mp called with ⟨_, outputs, same, sent⟩
    refine ⟨?_, exists_sendToServerUsers_iff.mp ⟨outputs, sent⟩⟩
    intro user found right
    have answered := (handshake.accepted user found right).2
    have answer : Sending.connectCLientSend c mUserId user.mZone ∈
        sendings.filter (fun sending => sending.IsConnectClient) := by
      rw [answered]
      exact List.mem_singleton_self _
    rw [same] at answer
    exact not_isConnectClient_of_operation (List.mem_filter.mp answer).1 trivial
  · intro conditions
    rcases conditions with ⟨wrong, reaches⟩
    have defined : ∃ outputs, router.sendToServerUsers (-1)
        (Instruction.connectUserRcvd mUserId mToken).transferable = some outputs :=
      exists_sendToServerUsers_iff.mpr reaches
    rcases defined with ⟨outputs, sent⟩
    refine ⟨router, outputs.map .operation,
      clientListener_eq_some_iff.mpr ⟨rfl, outputs, rfl, sent⟩, ?_, ?_⟩
    · intro user found right
      exact absurd right (wrong user found)
    · intro _
      exact ⟨rfl, fun sending member => not_isConnectClient_of_operation member⟩

/-- The message itself would answer every client, with the token it presents
in the place of the zone. -/
theorem connectUserRcvd_answers {sendings : List Sending}
    (done : ConnectUserRcvd.exec mUserId mToken router c = some (next, sendings)) :
    router.connectUser mUserId mToken c = some next ∧
      sendings = [.connectCLientSend c mUserId mToken] := by
  simp only [ConnectUserRcvd.exec, answer, Option.bind_eq_bind, Option.bind_eq_some_iff,
    Option.pure_def, Option.some.injEq, Prod.mk.injEq] at done
  rcases done with ⟨connected, called, answered, sent, sameRouter, sameSendings⟩
  subst sameRouter sameSendings
  split at sent
  · cases sent
  · cases sent
    exact ⟨called, rfl⟩

/-- A user with the right token is not answered. -/
theorem right_token_unanswered :
    ∃ router, General.run Router.step Router.empty [.addUser 1 5] = some router ∧
      ¬ ∃ next sendings,
        ClientListener.callbackFunction router (Instruction.create 200 [1, 5]) 7 =
          some (next, sendings) ∧ Handshake router 1 5 7 next sendings := by
  refine ⟨_, rfl, ?_⟩
  intro completed
  rcases completed with ⟨next, sendings, called, handshake⟩
  cases called
  have answered := (handshake.accepted (User.create 1 5) rfl rfl).2
  cases answered

end Router
end Pxc
