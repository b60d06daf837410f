import Pxc.General.Runs
import Pxc.Messaging.FrameRecovery

namespace Pxc
namespace Messaging

open General

/-!
# Whether one peer changes how others are served

A process has one factory for all of its connections, and every header that
arrives on any of them sets its protocol before the rest of the message is
looked at.  A version that the profile does not support should raise an
exception and leave the factory as it was.  Which versions are supported is a
parameter here: the profiles themselves return their tables for every version.

No version makes `setProtocol` throw, and afterwards the factory always holds
the version it was given.  So a frame with an unsupported version always
changes the factory, and with the reserved name "none" it moreover leaves it
without any creator or type id until the next frame arrives.
-/

variable {Creator : Type}

/-- What the thread of a connection finds in its stream when it calls
`receiveTransfThread`, and behind its arrays. -/
structure Arrival where
  connection : Nat
  behind : Behind
  stream : List UInt8

namespace Arrival

/-- The string that is given to `setProtocol`. -/
def version (arrival : Arrival) : List UInt8 :=
  protocol (arrival.stream.take 16) arrival.behind

/-- A header arrives, and its version is not supported. -/
def Unsupported (supported : List UInt8 → Prop) (arrival : Arrival) : Prop :=
  16 ≤ arrival.stream.length ∧ ¬ supported arrival.version

end Arrival

namespace TransferableFactory

/-- The factory as it is constructed, with a profile set. -/
def withProfile (profile : Profile Creator) : TransferableFactory Creator where
  mProfile := some profile
  mProtocolVersion := NO_PROTOCOL
  mCreators := ∅
  mSendingType := ∅

/-- The factory as every program's `main` leaves it. -/
def startUp (profile : Profile Creator) : TransferableFactory Creator :=
  ((withProfile profile).setProtocol TRANSFERABLE_LAST_VERSION).1

end TransferableFactory

/-- The factory after one call of `receiveTransfThread`. -/
def afterArrival (typeSize : Creator → Nat) (factory : TransferableFactory Creator)
    (arrival : Arrival) : TransferableFactory Creator :=
  (receiveTransfThread typeSize factory arrival.behind arrival.stream).1

/-- The calls on all connections, one at a time. -/
def receive (typeSize : Creator → Nat) (factory : TransferableFactory Creator)
    (arrival : Arrival) : Option (TransferableFactory Creator) :=
  some (afterArrival typeSize factory arrival)

/-- Two factories give the same results to whoever sends or receives. -/
structure SameService (first second : TransferableFactory Creator) : Prop where
  protocol : first.mProtocolVersion = second.mProtocolVersion
  type : ∀ name, first.type name = second.type name
  creator : ∀ creatorType, first.creator creatorType = second.creator creatorType

/-- The frame raises an exception, leaves the factory as it was, and whatever
arrives later is served as if the frame had not arrived. -/
structure Unaffected (typeSize : Creator → Nat) (factory : TransferableFactory Creator)
    (arrival : Arrival) : Prop where
  raises : ∃ what rest,
    (receiveTransfThread typeSize factory arrival.behind arrival.stream).2 = .failed what rest
  unchanged : afterArrival typeSize factory arrival = factory
  sameService : ∀ later : List Arrival,
    SameService (later.foldl (afterArrival typeSize) (afterArrival typeSize factory arrival))
      (later.foldl (afterArrival typeSize) factory)

section Versions

variable {typeSize : Creator → Nat} {factory : TransferableFactory Creator}
  {profile : Profile Creator} {supported : List UInt8 → Prop} {arrival : Arrival}

theorem version_setProtocol (set : factory.mProfile = some profile) (version : List UInt8) :
    (factory.setProtocol version).1.mProtocolVersion = version := by
  by_cases real : version = NO_PROTOCOL
  · simp only [TransferableFactory.setProtocol, set, real, ne_eq, not_true_eq_false, if_false,
      TransferableFactory.clear]
  · simp only [TransferableFactory.setProtocol, set, real, ne_eq, not_false_eq_true, if_true]

theorem afterArrival_header (enough : 16 ≤ arrival.stream.length) :
    afterArrival typeSize factory arrival = (factory.setProtocol arrival.version).1 := by
  rw [afterArrival, receiveTransfThread_eq enough, Arrival.version]

theorem afterArrival_short (short : ¬ 16 ≤ arrival.stream.length) :
    afterArrival typeSize factory arrival = factory := by
  rw [afterArrival, receiveTransfThread, if_pos (Nat.lt_of_not_le short)]

/-- The factory has the profile and holds a supported version. -/
structure InService (supported : List UInt8 → Prop) (profile : Profile Creator)
    (factory : TransferableFactory Creator) : Prop where
  set : factory.mProfile = some profile
  version : supported factory.mProtocolVersion

theorem inService_startUp (latest : supported TRANSFERABLE_LAST_VERSION) :
    InService supported profile (TransferableFactory.startUp profile) where
  set := TransferableFactory.setProtocol_mProfile
  version := by
    have set : (TransferableFactory.withProfile profile).mProfile = some profile := rfl
    rw [TransferableFactory.startUp, version_setProtocol set]
    exact latest

theorem InService.afterArrival (inService : InService supported profile factory)
    (allowed : ¬ arrival.Unsupported supported) :
    InService supported profile (afterArrival typeSize factory arrival) := by
  by_cases enough : 16 ≤ arrival.stream.length
  · rw [afterArrival_header enough]
    refine ⟨TransferableFactory.setProtocol_mProfile.trans inService.set, ?_⟩
    rw [version_setProtocol inService.set]
    apply Classical.byContradiction
    intro unsupported
    exact allowed ⟨enough, unsupported⟩
  · rw [afterArrival_short enough]
    exact inService

/-- An unsupported version replaces the one that the factory held. -/
theorem InService.not_unaffected (inService : InService supported profile factory)
    (unsupported : arrival.Unsupported supported) : ¬ Unaffected typeSize factory arrival := by
  intro unaffected
  have same := (unaffected.sameService []).protocol
  change (Messaging.afterArrival typeSize factory arrival).mProtocolVersion =
    factory.mProtocolVersion at same
  rw [afterArrival_header unsupported.1, version_setProtocol inService.set] at same
  exact unsupported.2 (same ▸ inService.version)

end Versions

/-- The frames with unsupported versions leave everybody unaffected along
exactly the runs in which there is none. -/
theorem peers_unaffected_iff (supported : List UInt8 → Prop) (typeSize : Creator → Nat)
    (profile : Profile Creator) (latest : supported TRANSFERABLE_LAST_VERSION)
    (arrivals : List Arrival) :
    AtEach (receive typeSize)
        (fun _ factory arrival => arrival.Unsupported supported →
          Unaffected typeSize factory arrival)
        (TransferableFactory.startUp profile) arrivals ↔
      ∀ arrival ∈ arrivals, ¬ arrival.Unsupported supported := by
  have total : ∀ factory arrival, ∃ next, receive typeSize factory arrival = some next :=
    fun factory arrival => ⟨afterArrival typeSize factory arrival, rfl⟩
  have observed : AtEach (receive typeSize) (fun _ _ arrival => ¬ arrival.Unsupported supported)
      (TransferableFactory.startUp profile) arrivals ↔
        ∀ arrival ∈ arrivals, ¬ arrival.Unsupported supported := atEach_iff_forall_mem total
  rw [← observed]
  refine atEach_iff (fun _ => True) (fun _ factory => InService supported profile factory)
    (fun _ _ _ => trivial) (inService_startUp latest) ?_ ?_ trivial
  · intro before factory arrival _ inService
    constructor
    · intro unaffected unsupported
      exact inService.not_unaffected unsupported (unaffected unsupported)
    · intro allowed unsupported
      exact absurd unsupported allowed
  · intro before factory arrival next _ inService allowed received
    cases received
    exact inService.afterArrival allowed

/-- A frame with the latest version does no harm. -/
theorem latest_version_unaffected :
    AtEach (receive id)
      (fun _ factory arrival => arrival.Unsupported (· = TRANSFERABLE_LAST_VERSION) →
        Unaffected id factory arrival)
      (TransferableFactory.startUp oneClass) [⟨1, ⟨[], fun _ => 0⟩, knownFrame.bytes⟩] := by
  refine (peers_unaffected_iff (· = TRANSFERABLE_LAST_VERSION) id oneClass rfl _).mpr ?_
  intro arrival member
  rw [List.mem_singleton.mp member]
  intro unsupported
  exact unsupported.2 (by decide)

/-- A header with the reserved name, which takes the version from everybody. -/
def reservedFrame : List UInt8 :=
  [0, 0, 0, 0] ++ NO_PROTOCOL ++ [0, 0, 0, 0] ++ [7, 0, 0, 0]

theorem reserved_name_affects :
    ¬ AtEach (receive id)
      (fun _ factory arrival => arrival.Unsupported (· = TRANSFERABLE_LAST_VERSION) →
        Unaffected id factory arrival)
      (TransferableFactory.startUp oneClass) [⟨1, ⟨[], fun _ => 0⟩, reservedFrame⟩] := by
  intro held
  have inService : InService (· = TRANSFERABLE_LAST_VERSION) oneClass
      (TransferableFactory.startUp oneClass) := inService_startUp rfl
  have unsupported : Arrival.Unsupported (· = TRANSFERABLE_LAST_VERSION)
      ⟨1, ⟨[], fun _ => 0⟩, reservedFrame⟩ := ⟨by decide, by decide⟩
  exact inService.not_unaffected unsupported ((atEach_cons.mp held).1 unsupported)

end Messaging
end Pxc
