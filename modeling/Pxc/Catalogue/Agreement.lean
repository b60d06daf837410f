import Pxc.Catalogue.Programs

namespace Pxc
namespace Catalogue

open General Messaging LayoutRule

/-!
# Agreement of the two sides of every message

The catalogue lists every class with a type id in its sender's profile, once
for each program to which the code or the comments of the sender direct it.
A message agrees when the receiver's factory has a creator for the id, and the
object created holds the values stored in the fields of the same meaning.

The theorem at the end names the nine messages that do not agree.  For four of
them the receiver has no creator, four lack a member that the receiver reads,
and one has its two members the other way round.
-/

/-- A class of one program, sent to another one. -/
structure Message where
  sender : Program
  receiver : Program
  sent : MessageClass
deriving DecidableEq

def catalogue : List Message :=
  [⟨.control, .game, Control.ServerLoadSend⟩, ⟨.control, .game, Control.RemoveZoneSend⟩,
    ⟨.control, .game, Control.GetZoneSend⟩, ⟨.control, .game, Control.IPServerSend⟩,
    ⟨.control, .game, Control.SetZoneToServerSend⟩, ⟨.control, .game, Control.GameNewUserSend⟩,
    ⟨.control, .game, Control.GameDeleteUserSend⟩,
    ⟨.control, .router, Control.RouterChangeZoneSend⟩, ⟨.control, .router, Control.IPServerSend⟩,
    ⟨.control, .router, Control.SetZoneToServerSend⟩,
    ⟨.control, .router, Control.RouterNewUserSend⟩,
    ⟨.control, .router, Control.RouterDeleteUserSend⟩,
    ⟨.control, .login, Control.LoginOnlineSend⟩,
    ⟨.login, .control, Login.NewClientSend⟩, ⟨.login, .control, Login.ClientDisconnectSend⟩,
    ⟨.game, .control, Game.ServerLoadAnswerSend⟩, ⟨.game, .control, Game.GetServerIpSend⟩,
    ⟨.router, .control, Router.GetServerIpSend⟩,
    ⟨.router, .game, Router.AddUserSend⟩, ⟨.router, .game, Router.DelUserSend⟩,
    ⟨.router, .game, Router.AddRouterSend⟩,
    ⟨.client, .login, Client.LoginRequestSend⟩,
    ⟨.client, .router, Client.ConnectClientSend⟩, ⟨.client, .router, Client.SetZoneSend⟩,
    ⟨.client, .router, Client.SetDestinationSend⟩,
    ⟨.login, .client, Login.LoginRequestSend⟩, ⟨.login, .client, Login.LogoutRequestSend⟩,
    ⟨.router, .client, Router.ConnectCLientSend⟩]

/-- No class with a type id is left out. -/
theorem catalogue_covers (program : Program) :
    ∀ entry ∈ program.profile.mCreatorIds,
      ∃ message ∈ catalogue, message.sender = program ∧ message.sent.mType = entry.1 := by
  cases program <;> decide +kernel

/-- The receiver has a creator for the id under which the class is sent, and
the object that it creates holds what the sender stored. -/
def Message.Agrees (rule : LayoutRule) (message : Message) : Prop :=
  ∃ (id : Int) (received : MessageClass),
    message.sender.factory.type message.sent.mType = .ok id ∧
      message.receiver.factory.creator id = .ok received ∧
        rule.Understands message.sent.fields received.fields

/-- The class that the receiver's profile has for the id of the message. -/
def Message.created (message : Message) : Option MessageClass :=
  (message.sender.profile.mCreatorIds.lookup message.sent.mType).bind fun id =>
    message.receiver.profile.mCreators.lookup id

theorem type_eq_ok_iff {program : Program} {name : String} {id : Int} :
    program.factory.type name = .ok id ↔ program.profile.mCreatorIds.lookup name = some id := by
  rw [Program.factory, TransferableFactory.type_of_protocol rfl (by decide)]
  cases program.profile.mCreatorIds.lookup name with
  | none => simp only [reduceCtorEq]
  | some other => simp only [Except.ok.injEq, Option.some.injEq]

theorem creator_eq_ok_iff {program : Program} {id : Int} {received : MessageClass} :
    program.factory.creator id = .ok received ↔
      program.profile.mCreators.lookup id = some received := by
  have real : TRANSFERABLE_LAST_VERSION ≠ NO_PROTOCOL := by decide
  rw [Program.factory, TransferableFactory.creator_setProtocol rfl, Profile.creatorFor,
    if_neg real]
  cases program.profile.mCreators.lookup id with
  | none => simp only [reduceCtorEq]
  | some other => simp only [Except.ok.injEq, Option.some.injEq]

theorem agrees_iff {rule : LayoutRule} {message : Message} :
    message.Agrees rule ↔
      ∃ received, message.created = some received ∧
        rule.Understands message.sent.fields received.fields := by
  simp only [Message.Agrees, type_eq_ok_iff, creator_eq_ok_iff, Message.created,
    Option.bind_eq_some_iff]
  constructor
  · rintro ⟨id, received, sent, created, understands⟩
    exact ⟨received, ⟨id, sent, created⟩, understands⟩
  · rintro ⟨received, ⟨id, sent, created⟩, understands⟩
    exact ⟨id, received, sent, created, understands⟩

/-- The class created has the first members of the class sent, in meaning and
type. -/
def Message.Matches (message : Message) : Prop :=
  ∃ received ∈ message.created, received.fields <+: message.sent.fields

instance (message : Message) : Decidable message.Matches :=
  match found : message.created with
  | none => .isFalse (by rintro ⟨received, member, -⟩; rw [found] at member; cases member)
  | some received =>
      decidable_of_iff (received.fields <+: message.sent.fields) (by
        simp only [Message.Matches, found, Option.mem_def, Option.some.injEq, exists_eq_left'])

theorem agrees_of_matches {message : Message} (rule : LayoutRule)
    (distinct : message.sent.fields.Nodup) (same : message.Matches) : message.Agrees rule := by
  rcases same with ⟨received, created, first⟩
  exact agrees_iff.mpr ⟨received, created, understands_of_isPrefix distinct first⟩

/-- The receiver has no creator for these. -/
def withoutCreator : List Message :=
  [⟨.router, .game, Router.AddRouterSend⟩, ⟨.login, .client, Login.LogoutRequestSend⟩,
    ⟨.client, .router, Client.SetZoneSend⟩, ⟨.client, .router, Client.SetDestinationSend⟩]

/-- The receiver reads a member of these that the sender does not have. -/
def withoutMember : List Message :=
  [⟨.control, .game, Control.RemoveZoneSend⟩, ⟨.control, .game, Control.GameDeleteUserSend⟩,
    ⟨.router, .game, Router.AddUserSend⟩, ⟨.router, .game, Router.DelUserSend⟩]

/-- The router declares the two members of its class the other way round. -/
def exchanged : Message :=
  ⟨.control, .router, Control.SetZoneToServerSend⟩

theorem not_agrees_of_withoutCreator {message : Message} (rule : LayoutRule)
    (member : message ∈ withoutCreator) : ¬ message.Agrees rule := by
  have uncreated : ∀ other ∈ withoutCreator, other.created = none := by decide +kernel
  rw [agrees_iff]
  rintro ⟨received, created, -⟩
  rw [uncreated message member] at created
  cases created

theorem not_agrees_of_withoutMember {message : Message} (rule : LayoutRule)
    (member : message ∈ withoutMember) : ¬ message.Agrees rule := by
  have missing : ∀ other ∈ withoutMember, ∃ received ∈ other.created.toList,
      ∃ field ∈ received.fields, ∀ source ∈ other.sent.fields, source.label ≠ field.label := by
    decide +kernel
  rcases missing message member with ⟨received, created, field, isReceived, lacked⟩
  rw [Option.mem_toList] at created
  rw [agrees_iff]
  rintro ⟨other, alsoCreated, understands⟩
  rw [Option.mem_def.mp created] at alsoCreated
  cases alsoCreated
  exact not_understands_of_missing isReceived lacked understands

theorem not_agrees_exchanged (rule : LayoutRule) : ¬ exchanged.Agrees rule := by
  have created : exchanged.created = some Router.SetZoneToServerRcvd := by decide +kernel
  rw [agrees_iff]
  rintro ⟨received, alsoCreated, understands⟩
  rw [created] at alsoCreated
  cases alsoCreated
  have distinct : exchanged.sent.fields.Nodup := by decide
  have zoneIsServer : Meaning.zone = Meaning.server :=
    head_label_of_understands distinct (by rfl) understands
  cases zoneIsServer

/-! ## The catalogue -/

/-- The messages on which the two sides do not agree. -/
def disagreeing : List Message :=
  exchanged :: (withoutMember ++ withoutCreator)

theorem not_agrees_of_disagreeing {message : Message} (rule : LayoutRule)
    (member : message ∈ disagreeing) : ¬ message.Agrees rule := by
  rcases List.mem_cons.mp member with rfl | later
  · exact not_agrees_exchanged rule
  · rcases List.mem_append.mp later with lacking | uncreated
    · exact not_agrees_of_withoutMember rule lacking
    · exact not_agrees_of_withoutCreator rule uncreated

theorem matches_of_not_disagreeing :
    ∀ message ∈ catalogue, message ∉ disagreeing → message.Matches := by
  decide +kernel

/-- The receiver of any other message has all of its members, except that the
token of a `ClientDisconnectSend` is sent for nothing. -/
theorem members_received :
    ∀ message ∈ catalogue, message ∉ disagreeing →
      message ≠ ⟨.login, .control, Login.ClientDisconnectSend⟩ →
        message.created.map MessageClass.fields = some message.sent.fields := by
  decide +kernel

theorem fields_distinct : ∀ message ∈ catalogue, message.sent.fields.Nodup := by
  decide +kernel

/-- Whatever the layout rule, a message of the catalogue agrees unless it is
one of the nine. -/
theorem agrees_iff_not_disagreeing (rule : LayoutRule) (message : Message)
    (listed : message ∈ catalogue) : message.Agrees rule ↔ message ∉ disagreeing := by
  constructor
  · intro agrees member
    exact not_agrees_of_disagreeing rule member agrees
  · intro regular
    exact agrees_of_matches rule (fields_distinct message listed)
      (matches_of_not_disagreeing message listed regular)

theorem zone_to_game_server_agrees :
    Message.Agrees naturalAlignment ⟨.control, .game, Control.SetZoneToServerSend⟩ :=
  (agrees_iff_not_disagreeing naturalAlignment _ (by decide +kernel)).mpr (by decide +kernel)

/-- Zone 1 and server 2. -/
def zoneOneServerTwo : Values Meaning :=
  fun field => Vector.ofFn fun index =>
    if index.val = 0 then (if field.label = .zone then 1 else 2) else 0

/-- The router takes the zone for the server, and the server for the zone. -/
theorem zone_read_as_server :
    exchanged ∈ catalogue ∧ ¬ exchanged.Agrees naturalAlignment ∧
      exchanged.created = some Router.SetZoneToServerRcvd ∧
        (naturalAlignment.place 0 Router.SetZoneToServerRcvd.fields).map
            (fun place => (place.2.label, (naturalAlignment.store zoneOneServerTwo 0
              exchanged.sent.fields fun _ => 0).read place.1 place.2.size)) =
          [(.server, [1, 0, 0, 0]), (.zone, [2, 0, 0, 0])] :=
  ⟨by decide +kernel, not_agrees_exchanged naturalAlignment, by decide +kernel,
    by decide +kernel⟩

end Catalogue
end Pxc
