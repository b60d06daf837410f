import Pxc.General.FiniteMaps

namespace Pxc
namespace Messaging

open General

/-!
# Profiles and the factory of transferables

Every program has a profile: the message classes it can receive, with their
type ids, and the type ids under which it sends its own.  The factory is set
to a protocol version before every use and then holds the profile's tables.
The profiles of all programs give the same tables for every version, and
throw nothing, so the path on which the factory recovers from an unknown
version is not reached.

A message class is whatever a creator makes; it is a parameter here.
-/

/-- The bytes of a string constant. -/
def bytesOf (text : String) : List UInt8 :=
  text.toList.map fun character => UInt8.ofNat character.toNat

/-- `TransferableFactory::NO_PROTOCOL`. -/
def NO_PROTOCOL : List UInt8 :=
  bytesOf "none"

/-- `TRANSFERABLE_LAST_VERSION`. -/
def TRANSFERABLE_LAST_VERSION : List UInt8 :=
  bytesOf "0.1a"

/-- `TransferableProfile`. -/
structure Profile (Creator : Type) where
  mCreators : List (Int × Creator)
  mCreatorIds : List (String × Int)

/-- `TransferableFactory`. -/
structure TransferableFactory (Creator : Type) where
  mProfile : Option (Profile Creator)
  mProtocolVersion : List UInt8
  mCreators : FiniteMap Int Creator
  mSendingType : FiniteMap String Int

/-- What a receiver with the profile finds for a protocol and a type id: the
first creator of the profile with the id, unless there is no protocol. -/
def Profile.creatorFor {Creator : Type} (profile : Profile Creator) (version : List UInt8)
    (creatorType : Int) : Except String Creator :=
  if version = NO_PROTOCOL then .error "No protocol stablished"
  else
    match profile.mCreators.lookup creatorType with
    | some creator => .ok creator
    | none => .error "Creator not found"

namespace TransferableFactory

variable {Creator : Type}

/-- `TransferableFactory::clear`. -/
def clear (factory : TransferableFactory Creator) : TransferableFactory Creator :=
  { factory with mProtocolVersion := NO_PROTOCOL, mCreators := ∅, mSendingType := ∅ }

/-- `TransferableFactory::setProtocol`, with the exception it throws. -/
def setProtocol (factory : TransferableFactory Creator) (version : List UInt8) :
    TransferableFactory Creator × Except String Unit :=
  match factory.mProfile with
  | none => (factory.clear, .error "No Profile set for TransferableFactory")
  | some profile =>
      if version ≠ NO_PROTOCOL then
        ({ factory.clear with
            mCreators := FiniteMap.ofPairs profile.mCreators
            mSendingType := FiniteMap.ofPairs profile.mCreatorIds
            mProtocolVersion := version },
          .ok ())
      else (factory.clear, .ok ())

/-- `TransferableFactory::type`, the id a class is sent under. -/
def type (factory : TransferableFactory Creator) (name : String) : Except String Int :=
  match factory.mProfile with
  | none => .error "No Profile set for TransferableFactory"
  | some _ =>
      if factory.mProtocolVersion = NO_PROTOCOL then .error "No protocol stablished"
      else
        match factory.mSendingType[name]? with
        | some id => .ok id
        | none => .error "Sending type not found"

/-- `TransferableFactory::creator`. -/
def creator (factory : TransferableFactory Creator) (creatorType : Int) :
    Except String Creator :=
  match factory.mProfile with
  | none => .error "No Profile set for TransferableFactory"
  | some _ =>
      if factory.mProtocolVersion = NO_PROTOCOL then .error "No protocol stablished"
      else
        match factory.mCreators[creatorType]? with
        | some creator => .ok creator
        | none => .error "Creator not found"

/-- What the receiver does with a header: `setProtocol`, and then `creator`. -/
def lookUp (factory : TransferableFactory Creator) (version : List UInt8) (creatorType : Int) :
    Except String Creator :=
  match factory.setProtocol version with
  | (_, .error what) => .error what
  | (factory, .ok _) => factory.creator creatorType

variable {factory : TransferableFactory Creator} {profile : Profile Creator}
  {version : List UInt8}

theorem setProtocol_ok (set : factory.mProfile = some profile) (version : List UInt8) :
    (factory.setProtocol version).2 = .ok () := by
  simp only [setProtocol, set]
  split <;> rfl

@[simp] theorem setProtocol_mProfile :
    (factory.setProtocol version).1.mProfile = factory.mProfile := by
  cases found : factory.mProfile with
  | none => simp only [setProtocol, found, clear]
  | some profile =>
      simp only [setProtocol, found]
      split <;> simp only [clear, found]

theorem creator_setProtocol (set : factory.mProfile = some profile) (version : List UInt8)
    (creatorType : Int) :
    (factory.setProtocol version).1.creator creatorType =
      profile.creatorFor version creatorType := by
  by_cases real : version = NO_PROTOCOL
  · simp only [setProtocol, set, creator, clear, Profile.creatorFor, real, ne_eq,
      not_true_eq_false, if_false, if_true]
  · simp only [setProtocol, set, creator, clear, Profile.creatorFor, real, ne_eq,
      not_false_eq_true, if_true, if_false, FiniteMap.getElem?_ofPairs]

theorem lookUp_eq_creatorFor (set : factory.mProfile = some profile) (version : List UInt8)
    (creatorType : Int) :
    factory.lookUp version creatorType = profile.creatorFor version creatorType := by
  have ok := setProtocol_ok set version
  rw [← creator_setProtocol set version creatorType, lookUp]
  rcases result : factory.setProtocol version with ⟨after, outcome⟩
  rw [result] at ok
  subst ok
  rfl

theorem type_of_protocol (set : factory.mProfile = some profile) (real : version ≠ NO_PROTOCOL)
    (name : String) :
    (factory.setProtocol version).1.type name =
      match profile.mCreatorIds.lookup name with
      | some id => .ok id
      | none => .error "Sending type not found" := by
  simp only [setProtocol, set, if_pos real, type, clear, if_neg real,
    FiniteMap.getElem?_ofPairs]

end TransferableFactory

end Messaging
end Pxc
