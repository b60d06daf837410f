import Pxc.General.Runs
import Pxc.Messaging.Factory

namespace Pxc
namespace Messaging

open General

/-!
# Profiles that refuse a version

The profiles of the programs give the same lists for every version.  A class
derived from `TransferableProfile` may do otherwise: its `getCreators` and its
`getCreatorIds` may throw for some versions, and the factory has a path on
which it recovers.  That path calls `setProtocol` again with a null pointer,
of which no string can be made, so the program does not get past it.

A profile object is handed over to the factory, which deletes it when it is
given the next one, and with it the creators in its list.  The next one may be
the same object.  The creators that the factory has copied stay in its map.
Below, every profile object has a number, and a pointer to a creator carries
the number of the object that deletes it.  A creator that `addCreator` is given
has no such owner.

The version comes as a reference.  When it refers to the factory's own string,
which `protocol()` returns, `setProtocol` has cleared it before it reads it.
-/

/-- An object of a class derived from `TransferableProfile`, with its number
and what its two functions return or throw. -/
structure ProfileObject (Creator : Type) where
  number : Nat
  getCreators : List UInt8 → Except String (List (Int × Creator))
  getCreatorIds : List UInt8 → Except String (List (String × Int))

/-- A `TransferableCreator*`, with the profile object that owns it. -/
structure CreatorPointer (Creator : Type) where
  owner : Option Nat
  creator : Creator
  deriving DecidableEq, Repr

/-- The two lists for a version, unless one of the functions throws. -/
def ProfileObject.lists {Creator : Type} (profile : ProfileObject Creator)
    (version : List UInt8) : Option (List (Int × Creator) × List (String × Int)) :=
  match profile.getCreators version, profile.getCreatorIds version with
  | .ok creators, .ok creatorIds => some (creators, creatorIds)
  | _, _ => none

/-- The creators of a list, as the pointers that a profile object owns. -/
def ownedBy {Creator : Type} (owner : Nat) (creators : List (Int × Creator)) :
    List (Int × CreatorPointer Creator) :=
  creators.map fun pair => (pair.1, ⟨some owner, pair.2⟩)

/-- `TransferableFactory`, with the numbers of the profile objects that it has
deleted. -/
structure VersionedFactory (Creator : Type) where
  mProfile : Option (ProfileObject Creator)
  mProtocolVersion : List UInt8
  mCreators : FiniteMap Int (CreatorPointer Creator)
  mSendingType : FiniteMap String Int
  deleted : List Nat

/-- What a `const std::string&` refers to: a string of the caller's, or the
factory's own. -/
inductive VersionReference where
  | given (text : List UInt8)
  | own

/-- The calls that change a factory.  A creator comes with what its `type()`
returns or throws. -/
inductive FactoryCall (Creator : Type) where
  | setProfile (profile : Option (ProfileObject Creator))
  | setProtocol (version : VersionReference)
  | addCreator (type : Except String Int) (creator : Creator)

namespace VersionedFactory

variable {Creator : Type}

/-- The constructor. -/
def fresh : VersionedFactory Creator :=
  ⟨none, NO_PROTOCOL, ∅, ∅, []⟩

/-- `TransferableFactory::clear`. -/
def clear (factory : VersionedFactory Creator) : VersionedFactory Creator :=
  { factory with mProtocolVersion := NO_PROTOCOL, mCreators := ∅, mSendingType := ∅ }

/-- The string that a reference leads to. -/
def read (factory : VersionedFactory Creator) : VersionReference → List UInt8
  | .given text => text
  | .own => factory.mProtocolVersion

/-- The factory with the lists of its profile object for a version. -/
def filled (factory : VersionedFactory Creator) (profile : ProfileObject Creator)
    (version : List UInt8) (lists : List (Int × Creator) × List (String × Int)) :
    VersionedFactory Creator :=
  { factory.clear with
    mCreators := FiniteMap.ofPairs (ownedBy profile.number lists.1)
    mSendingType := FiniteMap.ofPairs lists.2
    mProtocolVersion := version }

/-- `TransferableFactory::setProtocol`, with what it throws.  The version is
read after `clear()`.  Nothing is defined when a profile is asked that has been
deleted, and after an exception of the profile, since `setProtocol(NULL)` makes
a string of a null pointer. -/
def setProtocol (factory : VersionedFactory Creator) (version : VersionReference) :
    Option (VersionedFactory Creator × Except String Unit) :=
  let cleared := factory.clear
  match cleared.mProfile with
  | none => some (cleared, .error "No Profile set for TransferableFactory")
  | some profile =>
      if cleared.read version ≠ NO_PROTOCOL then
        if profile.number ∈ cleared.deleted then none
        else
          (profile.lists (cleared.read version)).map fun lists =>
            (cleared.filled profile (cleared.read version) lists, .ok ())
      else some (cleared, .ok ())

/-- `delete mProfile`, which is not defined for an object that has been deleted
before. -/
def deleteProfile (factory : VersionedFactory Creator) : Option (VersionedFactory Creator) :=
  match factory.mProfile with
  | none => some factory
  | some profile =>
      if profile.number ∈ factory.deleted then none
      else some { factory with deleted := profile.number :: factory.deleted }

/-- `TransferableFactory::setProfile`. -/
def setProfile (factory : VersionedFactory Creator) (profile : Option (ProfileObject Creator)) :
    Option (VersionedFactory Creator) :=
  factory.deleteProfile.map fun after => { after with mProfile := profile }

/-- `TransferableFactory::addCreator`, whose test is `it != mCreators.end()`. -/
def addCreator (factory : VersionedFactory Creator) (type : Except String Int)
    (creator : Creator) : VersionedFactory Creator × Except String Unit :=
  match type with
  | .error what => (factory, .error what)
  | .ok type =>
      if type ∈ factory.mCreators then
        ({ factory with mCreators := factory.mCreators.insertIfNew type ⟨none, creator⟩ }, .ok ())
      else (factory, .error "Creator already in factory")

/-- `TransferableFactory::type`, the id a class is sent under. -/
def type (factory : VersionedFactory Creator) (name : String) : Except String Int :=
  match factory.mProfile with
  | none => .error "No Profile set for TransferableFactory"
  | some _ =>
      if factory.mProtocolVersion = NO_PROTOCOL then .error "No protocol stablished"
      else
        match factory.mSendingType[name]? with
        | some id => .ok id
        | none => .error "Sending type not found"

/-- `TransferableFactory::creator`. -/
def creator (factory : VersionedFactory Creator) (creatorType : Int) :
    Except String (CreatorPointer Creator) :=
  match factory.mProfile with
  | none => .error "No Profile set for TransferableFactory"
  | some _ =>
      if factory.mProtocolVersion = NO_PROTOCOL then .error "No protocol stablished"
      else
        match factory.mCreators[creatorType]? with
        | some creator => .ok creator
        | none => .error "Creator not found"

/-- One call, with what it throws. -/
def call (factory : VersionedFactory Creator) :
    FactoryCall Creator → Option (VersionedFactory Creator × Except String Unit)
  | .setProfile profile => (factory.setProfile profile).map fun next => (next, .ok ())
  | .setProtocol version => factory.setProtocol version
  | .addCreator type creator => some (factory.addCreator type creator)

/-- The factory after a call. -/
def step (factory : VersionedFactory Creator) (event : FactoryCall Creator) :
    Option (VersionedFactory Creator) :=
  (factory.call event).map Prod.fst

/-! ## What a factory should answer -/

/-- The lists of a profile object for the current version.  One that has been
deleted has none. -/
def available (factory : VersionedFactory Creator) (profile : ProfileObject Creator) :
    Option (List (Int × Creator) × List (String × Int)) :=
  if profile.number ∈ factory.deleted then none else profile.lists factory.mProtocolVersion

/-- The lists of the current profile for the current version. -/
def current (factory : VersionedFactory Creator) :
    Option (List (Int × CreatorPointer Creator) × List (String × Int)) :=
  match factory.mProfile with
  | none => none
  | some profile =>
      if factory.mProtocolVersion = NO_PROTOCOL then none
      else (factory.available profile).map fun lists => (ownedBy profile.number lists.1, lists.2)

/-- The factory answers from these lists and the added creators, never with a
creator of a deleted profile, and throws otherwise. -/
structure Answers (added : List (Int × CreatorPointer Creator))
    (factory : VersionedFactory Creator) : Prop where
  creators : ∀ id, (factory.creator id).toOption =
    factory.current.bind fun lists => (lists.1 ++ added).lookup id
  types : ∀ name, (factory.type name).toOption =
    factory.current.bind fun lists => lists.2.lookup name
  alive : ∀ id pointer, factory.creator id = .ok pointer →
    ∀ owner ∈ pointer.owner, owner ∉ factory.deleted

/-- The creators added since the profile or the version was last set. -/
def addedSince (history : List (FactoryCall Creator)) : List (Int × CreatorPointer Creator) :=
  history.foldl
    (fun added event =>
      match event with
      | .addCreator (.ok type) creator => added ++ [(type, ⟨none, creator⟩)]
      | .addCreator (.error _) _ => added
      | _ => [])
    []

/-- The profile gives no lists for the version, or there is none. -/
def Refuses (factory : VersionedFactory Creator) (version : List UInt8) : Prop :=
  match factory.mProfile with
  | none => True
  | some profile => version ≠ NO_PROTOCOL ∧ profile.lists version = none

/-- What a call should return or throw, and what it should leave.  The version
is the one that the caller's reference led to. -/
def Returns (factory next : VersionedFactory Creator) (outcome : Except String Unit) :
    FactoryCall Creator → Prop
  | .setProfile _ => outcome = .ok ()
  | .setProtocol version =>
      (factory.Refuses (factory.read version) →
        (∃ what, outcome = .error what) ∧ next.mProtocolVersion = NO_PROTOCOL ∧
          next.mCreators = ∅) ∧
        (¬ factory.Refuses (factory.read version) →
          outcome = .ok () ∧ next.mProtocolVersion = factory.read version)
  | .addCreator type _ => outcome = .ok () ↔ ∃ id, type = .ok id ∧ id ∉ factory.mCreators

/-- The call returns or throws as it should, and the factory then follows its
profile. -/
def Follows (before : List (FactoryCall Creator)) (factory : VersionedFactory Creator)
    (event : FactoryCall Creator) : Prop :=
  ∃ next outcome, factory.call event = some (next, outcome) ∧
    Returns factory next outcome event ∧ Answers (addedSince (before ++ [event])) next

/-- The profile object has been deleted although the factory still points to
it. -/
def Dangles (factory : VersionedFactory Creator) : Prop :=
  ∃ profile ∈ factory.mProfile, profile.number ∈ factory.deleted

/-- A profile may come while a version is set only if neither it nor the
factory has any creator, and the ids to send under are the same.  A profile
that is deleted with the old one has no lists. -/
def Replaceable (factory : VersionedFactory Creator) (profile : ProfileObject Creator) : Prop :=
  let lists :=
    if profile.number ∈ factory.deleted ∨ ∃ old ∈ factory.mProfile, profile.number = old.number
    then ([], [])
    else (profile.lists factory.mProtocolVersion).getD ([], [])
  factory.mProtocolVersion = NO_PROTOCOL ∨
    factory.mCreators = ∅ ∧ lists.1 = [] ∧ ∀ name, factory.mSendingType[name]? = lists.2.lookup name

/-- The call does not meet one of the factory's faults.  No creator is added, no
profile object is deleted twice or asked after it has been deleted, no version
is set that the profile refuses, or by a reference to the factory's own string,
and no profile comes while a version is set, unless that changes nothing. -/
def Harmless (factory : VersionedFactory Creator) : FactoryCall Creator → Prop
  | .setProfile profile =>
      ¬ factory.Dangles ∧ ∀ new, profile = some new → factory.Replaceable new
  | .setProtocol version =>
      ∀ profile, factory.mProfile = some profile → factory.read version ≠ NO_PROTOCOL →
        version ≠ .own ∧ profile.number ∉ factory.deleted ∧
          profile.lists (factory.read version) ≠ none
  | .addCreator type _ => ∃ what, type = .error what

variable {factory next : VersionedFactory Creator} {profile : ProfileObject Creator}

theorem creator_of_unset (unset : factory.mProfile = none ∨ factory.mProtocolVersion = NO_PROTOCOL)
    (id : Int) : (factory.creator id).toOption = none := by
  rcases unset with none | plain
  · simp only [creator, none, Except.toOption]
  · simp only [creator, plain, if_true]
    cases factory.mProfile <;> rfl

/-- Without a profile or a version the factory throws, as it should. -/
theorem answers_of_unset (unset : factory.mProfile = none ∨ factory.mProtocolVersion = NO_PROTOCOL)
    (added : List (Int × CreatorPointer Creator)) : Answers added factory := by
  have nothing : factory.current = none := by
    rcases unset with none | plain
    · simp only [current, none]
    · simp only [current, plain, if_true]
      cases factory.mProfile <;> rfl
  constructor
  · intro id
    rw [creator_of_unset unset, nothing]
    rfl
  · intro name
    rw [nothing]
    rcases unset with none | plain
    · simp only [type, none, Except.toOption, Option.bind_none]
    · simp only [type, plain, if_true]
      cases factory.mProfile <;> rfl
  · intro id pointer found
    have missing := creator_of_unset unset id
    rw [found] at missing
    cases missing

theorem lookup_ownedBy (owner : Nat) (creators : List (Int × Creator)) (id : Int) :
    (ownedBy owner creators).lookup id =
      (creators.lookup id).map fun creator => ⟨some owner, creator⟩ := by
  induction creators with
  | nil => rfl
  | cons pair rest inductionHypothesis =>
      rw [ownedBy, List.map_cons, List.lookup_cons, List.lookup_cons, ← ownedBy,
        inductionHypothesis]
      cases id == pair.1 <;> rfl

/-- With both, its maps have to hold the lists. -/
theorem answers_iff (set : factory.mProfile = some profile)
    (real : factory.mProtocolVersion ≠ NO_PROTOCOL) :
    Answers [] factory ↔
      (∀ id, factory.mCreators[id]? = (ownedBy profile.number
        ((factory.available profile).getD ([], [])).1).lookup id) ∧
        ∀ name, factory.mSendingType[name]? =
          ((factory.available profile).getD ([], [])).2.lookup name := by
  have creators : ∀ id, (factory.creator id).toOption = factory.mCreators[id]? := by
    intro id
    simp only [creator, set, if_neg real]
    cases factory.mCreators[id]? <;> rfl
  have types : ∀ name, (factory.type name).toOption = factory.mSendingType[name]? := by
    intro name
    simp only [type, set, if_neg real]
    cases factory.mSendingType[name]? <;> rfl
  have given : factory.current = (factory.available profile).map fun lists =>
      (ownedBy profile.number lists.1, lists.2) := by
    simp only [current, set, if_neg real]
  have fromLists : ∀ id, (factory.current.bind fun lists => (lists.1 ++ []).lookup id) =
      (ownedBy profile.number ((factory.available profile).getD ([], [])).1).lookup id := by
    intro id
    rw [given]
    cases factory.available profile with
    | none => rfl
    | some lists => simp only [Option.map_some, Option.bind_some, List.append_nil, Option.getD_some]
  have fromIds : ∀ name, (factory.current.bind fun lists => lists.2.lookup name) =
      ((factory.available profile).getD ([], [])).2.lookup name := by
    intro name
    rw [given]
    cases factory.available profile <;> rfl
  constructor
  · intro answers
    refine ⟨fun id => ?_, fun name => ?_⟩
    · rw [← creators, answers.creators, fromLists]
    · rw [← types, answers.types, fromIds]
  · rintro ⟨holds, sends⟩
    refine ⟨fun id => ?_, fun name => ?_, fun id pointer found owner owns => ?_⟩
    · rw [creators, holds, fromLists]
    · rw [types, sends, fromIds]
    · -- What is found is in the lists, which only an object that is there has.
      have inMap : factory.mCreators[id]? = some pointer := by
        rw [← creators, found]
        rfl
      rw [holds, lookup_ownedBy, Option.map_eq_some_iff] at inMap
      rcases inMap with ⟨creator, listed, rfl⟩
      cases owns
      intro gone
      rw [available, if_pos gone] at listed
      cases listed

/-- A factory whose calls have all been harmless.  It follows its profile, and
its creators belong to this or to a profile object that it has deleted. -/
structure Settled (factory : VersionedFactory Creator) : Prop where
  answers : Answers [] factory
  owned : ∀ (id : Int) (pointer : CreatorPointer Creator),
    factory.mCreators[id]? = some pointer → ∃ owner, pointer.owner = some owner ∧
      (owner ∈ factory.deleted ∨ ∃ profile ∈ factory.mProfile, owner = profile.number)

theorem Settled.fresh : Settled (fresh : VersionedFactory Creator) where
  answers := answers_of_unset (Or.inl rfl) []
  owned := by
    intro id pointer found
    exact absurd (FiniteMap.mem_of_getElem? found) Std.ExtTreeMap.not_mem_empty

/-- The old profile object is deleted when there is one that has not been. -/
theorem exists_deleteProfile (sound : ¬ factory.Dangles) :
    ∃ deleted, factory.deleteProfile = some { factory with deleted } ∧
      ∀ number, number ∈ deleted ↔
        number ∈ factory.deleted ∨ ∃ old ∈ factory.mProfile, number = old.number := by
  cases set : factory.mProfile with
  | none =>
      refine ⟨factory.deleted, ?_, fun number => ?_⟩
      · simp only [deleteProfile, set]
        exact congrArg some (set ▸ rfl)
      · simp only [Option.not_mem_none, false_and, exists_false, or_false]
  | some old =>
      have there : old.number ∉ factory.deleted := fun gone => sound ⟨old, set, gone⟩
      refine ⟨old.number :: factory.deleted, ?_, fun number => ?_⟩
      · simp only [deleteProfile, set, if_neg there]
      · simp only [Option.mem_some_iff, exists_eq_left', List.mem_cons]
        exact or_comm

theorem deleteProfile_of_dangles (dangles : factory.Dangles) : factory.deleteProfile = none := by
  rcases dangles with ⟨profile, set, gone⟩
  rw [deleteProfile, Option.mem_def.mp set]
  exact if_pos gone

namespace Settled

theorem clear (factory : VersionedFactory Creator) : Settled factory.clear where
  answers := answers_of_unset (Or.inr rfl) []
  owned := by
    intro id pointer found
    exact absurd (FiniteMap.mem_of_getElem? found) Std.ExtTreeMap.not_mem_empty

section Deletion

variable {deleted : List Nat}

/-- The creators stay in the map when their profile object is deleted. -/
theorem exists_owner_of_deleted (settled : Settled factory)
    (gone : ∀ number, number ∈ deleted ↔
      number ∈ factory.deleted ∨ ∃ old ∈ factory.mProfile, number = old.number)
    {id : Int} {pointer : CreatorPointer Creator} (found : factory.mCreators[id]? = some pointer) :
    ∃ owner ∈ deleted, pointer.owner = some owner := by
  rcases settled.owned id pointer found with ⟨owner, owns, former⟩
  exact ⟨owner, (gone owner).mpr former, owns⟩

/-- A new profile brings creators of its own, so the old ones must not be
there. -/
theorem answers_setProfile_iff (settled : Settled factory)
    (gone : ∀ number, number ∈ deleted ↔
      number ∈ factory.deleted ∨ ∃ old ∈ factory.mProfile, number = old.number)
    (profile : ProfileObject Creator) :
    Answers [] { factory with deleted, mProfile := some profile } ↔
      factory.Replaceable profile := by
  by_cases real : factory.mProtocolVersion = NO_PROTOCOL
  · have kept : ({ factory with deleted, mProfile := some profile } :
        VersionedFactory Creator).mProtocolVersion = NO_PROTOCOL := real
    exact iff_of_true (answers_of_unset (Or.inr kept) []) (Or.inl real)
  · have kept : ({ factory with deleted, mProfile := some profile } :
        VersionedFactory Creator).mProtocolVersion ≠ NO_PROTOCOL := real
    have set : ({ factory with deleted, mProfile := some profile } :
        VersionedFactory Creator).mProfile = some profile := rfl
    have lists : (if profile.number ∈ factory.deleted ∨
        ∃ old ∈ factory.mProfile, profile.number = old.number then ([], [])
        else (profile.lists factory.mProtocolVersion).getD ([], [])) =
        (({ factory with deleted, mProfile := some profile } :
          VersionedFactory Creator).available profile).getD ([], []) := by
      unfold available
      by_cases former : profile.number ∈ deleted
      · rw [if_pos ((gone _).mp former), if_pos former]
        rfl
      · rw [if_neg fun listed => former ((gone _).mpr listed), if_neg former]
    unfold Replaceable
    rw [answers_iff set kept, lists]
    simp only [real, false_or]
    rw [← and_assoc]
    apply and_congr_left
    intro _
    constructor
    · intro same
      have missing : ∀ id : Int, factory.mCreators[id]? = none := by
        intro id
        cases found : factory.mCreators[id]? with
        | none => rfl
        | some pointer =>
            rcases settled.exists_owner_of_deleted gone found with ⟨owner, dead, owned⟩
            rw [same id, lookup_ownedBy, Option.map_eq_some_iff] at found
            rcases found with ⟨creator, listed, rfl⟩
            cases owned
            rw [available, if_pos dead] at listed
            cases listed
      refine ⟨?_, ?_⟩
      · apply Std.ExtTreeMap.ext_getElem?
        intro id
        rw [missing, Std.ExtTreeMap.getElem?_empty]
      · simp only [lookup_ownedBy, missing] at same
        generalize ((available _ profile).getD ([], [])).1 = creators at same ⊢
        cases creators with
        | nil => rfl
        | cons pair rest =>
            have first := same pair.1
            rw [List.lookup_cons, beq_self_eq_true] at first
            cases first
    · rintro ⟨empty, nothing⟩ id
      rw [nothing, empty, Std.ExtTreeMap.getElem?_empty]
      rfl

end Deletion

/-- Setting a version that the profile accepts. -/
theorem setProtocol (set : factory.mProfile = some profile)
    (there : profile.number ∉ factory.deleted) {version : List UInt8}
    (real : version ≠ NO_PROTOCOL) {lists : List (Int × Creator) × List (String × Int)}
    (accepted : profile.lists version = some lists) :
    Settled (factory.clear.filled profile version lists) where
  answers := by
    have holds : (factory.clear.filled profile version lists).mProfile = some profile := set
    have speaks : (factory.clear.filled profile version lists).mProtocolVersion ≠ NO_PROTOCOL :=
      real
    have given : (factory.clear.filled profile version lists).available profile = some lists :=
      (if_neg there).trans accepted
    rw [answers_iff holds speaks, given, Option.getD_some]
    exact ⟨fun id => FiniteMap.getElem?_ofPairs _ id, fun name => FiniteMap.getElem?_ofPairs _ name⟩
  owned := by
    intro id pointer found
    rw [filled, FiniteMap.getElem?_ofPairs, lookup_ownedBy, Option.map_eq_some_iff] at found
    rcases found with ⟨creator, _, rfl⟩
    exact ⟨profile.number, rfl, Or.inr ⟨profile, set, rfl⟩⟩

end Settled

theorem addedSince_concat (history : List (FactoryCall Creator)) (event : FactoryCall Creator) :
    addedSince (history ++ [event]) =
      match event with
      | .addCreator (.ok type) creator => addedSince history ++ [(type, ⟨none, creator⟩)]
      | .addCreator (.error _) _ => addedSince history
      | _ => [] := by
  rw [addedSince, List.foldl_append, List.foldl_cons, List.foldl_nil, ← addedSince]

theorem addedSince_of_harmless {history : List (FactoryCall Creator)}
    {event : FactoryCall Creator} (none : addedSince history = [])
    (harmless : Harmless factory event) : addedSince (history ++ [event]) = [] := by
  rw [addedSince_concat]
  cases event with
  | setProfile profile => rfl
  | setProtocol version => rfl
  | addCreator type creator =>
      rcases harmless with ⟨what, rfl⟩
      exact none

section SetProtocol

variable {version : VersionReference}

theorem setProtocol_of_no_profile (none : factory.mProfile = none) :
    factory.setProtocol version =
      some (factory.clear, .error "No Profile set for TransferableFactory") := by
  have cleared : factory.clear.mProfile = Option.none := none
  rw [setProtocol]
  simp only [cleared]

theorem setProtocol_of_none (set : factory.mProfile = some profile)
    (plain : factory.clear.read version = NO_PROTOCOL) :
    factory.setProtocol version = some (factory.clear, .ok ()) := by
  have cleared : factory.clear.mProfile = some profile := set
  rw [setProtocol]
  simp only [cleared]
  exact if_neg fun real => real plain

theorem setProtocol_of_given (set : factory.mProfile = some profile) {text : List UInt8}
    (real : text ≠ NO_PROTOCOL) :
    factory.setProtocol (.given text) =
      if profile.number ∈ factory.deleted then none
      else (profile.lists text).map fun lists =>
        (factory.clear.filled profile text lists, .ok ()) := by
  have cleared : factory.clear.mProfile = some profile := set
  rw [setProtocol]
  simp only [cleared]
  exact if_pos real

end SetProtocol

theorem follows_setProtocol_iff (factory : VersionedFactory Creator)
    {before : List (FactoryCall Creator)} (version : VersionReference) :
    Follows before factory (.setProtocol version) ↔ Harmless factory (.setProtocol version) := by
  simp only [Follows, addedSince_concat, call, Harmless]
  cases set : factory.mProfile with
  | none =>
      refine iff_of_true ⟨_, _, setProtocol_of_no_profile set, ⟨?_, ?_⟩,
        (Settled.clear factory).answers⟩ ?_
      · exact fun _ => ⟨⟨_, rfl⟩, rfl, rfl⟩
      · intro accepts
        simp only [Refuses, set, not_true_eq_false] at accepts
      · intro profile impossible
        cases impossible
  | some profile =>
      by_cases real : factory.read version = NO_PROTOCOL
      · have plain : factory.clear.read version = NO_PROTOCOL := by
          cases version with
          | given text => exact real
          | own => rfl
        refine iff_of_true ⟨_, _, setProtocol_of_none set plain, ⟨?_, ?_⟩,
          (Settled.clear factory).answers⟩ ?_
        · intro refuses
          simp only [Refuses, set, real, ne_eq, not_true_eq_false, false_and] at refuses
        · exact fun _ => ⟨rfl, real.symm⟩
        · exact fun _ _ other => absurd real other
      · cases version with
        | own =>
            -- The string has been cleared when it is read: no version is set,
            -- and nothing is thrown.
            refine iff_of_false ?_ fun harmless => (harmless profile rfl real).1 rfl
            rintro ⟨next, outcome, called, ⟨thrown, returned⟩, _⟩
            rw [setProtocol_of_none set rfl] at called
            cases called
            by_cases refuses : factory.Refuses (factory.read .own)
            · rcases (thrown refuses).1 with ⟨what, impossible⟩
              cases impossible
            · exact real (returned refuses).2.symm
        | given text =>
            change text ≠ NO_PROTOCOL at real
            rw [setProtocol_of_given set real]
            by_cases dead : profile.number ∈ factory.deleted
            · refine iff_of_false ?_ fun harmless => (harmless profile rfl real).2.1 dead
              rintro ⟨next, outcome, called, _⟩
              rw [if_pos dead] at called
              cases called
            · rw [if_neg dead]
              cases accepted : profile.lists text with
              | none =>
                  refine iff_of_false ?_ fun harmless =>
                    (harmless profile rfl real).2.2 accepted
                  rintro ⟨next, outcome, called, _⟩
                  cases called
              | some lists =>
                  have kept := Settled.setProtocol set dead real accepted
                  refine iff_of_true ⟨_, .ok (), rfl, ⟨?_, ?_⟩, kept.answers⟩ ?_
                  · intro refuses
                    simp only [Refuses, set, read, accepted, reduceCtorEq, and_false] at refuses
                  · exact fun _ => ⟨rfl, rfl⟩
                  · rintro _ ⟨⟩ _
                    refine ⟨nofun, dead, fun none => ?_⟩
                    rw [read, accepted] at none
                    cases none

namespace Settled

variable {before : List (FactoryCall Creator)}

theorem follows_setProfile_iff (settled : Settled factory)
    (profile : Option (ProfileObject Creator)) :
    Follows before factory (.setProfile profile) ↔ Harmless factory (.setProfile profile) := by
  by_cases dangles : factory.Dangles
  · refine iff_of_false ?_ fun harmless => harmless.1 dangles
    rintro ⟨next, outcome, called, _⟩
    rw [call, VersionedFactory.setProfile, deleteProfile_of_dangles dangles] at called
    cases called
  · rcases exists_deleteProfile dangles with ⟨deleted, made, gone⟩
    have calls : Follows before factory (.setProfile profile) ↔
        Answers [] { factory with deleted, mProfile := profile } := by
      simp only [Follows, call, VersionedFactory.setProfile, made, Option.map_some, Returns,
        addedSince_concat]
      constructor
      · rintro ⟨next, outcome, called, _, answers⟩
        cases called
        exact answers
      · intro answers
        exact ⟨_, _, rfl, rfl, answers⟩
    rw [calls]
    cases profile with
    | none => exact iff_of_true (answers_of_unset (Or.inl rfl) []) ⟨dangles, nofun⟩
    | some profile =>
        rw [settled.answers_setProfile_iff gone profile]
        constructor
        · intro replaceable
          refine ⟨dangles, fun new same => ?_⟩
          cases same
          exact replaceable
        · intro harmless
          exact harmless.2 profile rfl

/-- The test of `addCreator` is the wrong way around. -/
theorem follows_addCreator_iff (settled : Settled factory) (none : addedSince before = [])
    (type : Except String Int) (creator : Creator) :
    Follows before factory (.addCreator type creator) ↔
      Harmless factory (.addCreator type creator) := by
  cases type with
  | error what =>
      refine iff_of_true ⟨factory, .error what, rfl, ?_, ?_⟩ ⟨what, rfl⟩
      · refine iff_of_false (fun thrown => by cases thrown) ?_
        rintro ⟨id, impossible, _⟩
        cases impossible
      · rw [addedSince_concat]
        exact none ▸ settled.answers
  | ok id =>
      refine iff_of_false ?_ fun harmless => by rcases harmless with ⟨_, ⟨⟩⟩
      rintro ⟨next, outcome, called, returns, _⟩
      simp only [call, addCreator, Option.some.injEq] at called
      by_cases present : id ∈ factory.mCreators
      · rw [if_pos present] at called
        cases called
        rcases returns.mp rfl with ⟨_, ⟨⟩, absent⟩
        exact absent present
      · rw [if_neg present] at called
        cases called
        have thrown := returns.mpr ⟨id, rfl, present⟩
        cases thrown

theorem follows_iff (settled : Settled factory) (none : addedSince before = [])
    (event : FactoryCall Creator) :
    Follows before factory event ↔ Harmless factory event := by
  cases event with
  | setProfile profile => exact settled.follows_setProfile_iff profile
  | setProtocol version => exact follows_setProtocol_iff factory version
  | addCreator type creator => exact settled.follows_addCreator_iff none type creator

end Settled

/-- A harmless call leaves a settled factory settled. -/
theorem Settled.step (settled : Settled factory) {event : FactoryCall Creator}
    (harmless : Harmless factory event) (stepped : factory.step event = some next) :
    Settled next := by
  rcases Option.map_eq_some_iff.mp stepped with ⟨⟨_, outcome⟩, called, rfl⟩
  cases event with
  | setProfile profile =>
      rcases exists_deleteProfile harmless.1 with ⟨deleted, made, gone⟩
      rw [call, VersionedFactory.setProfile, made] at called
      cases called
      refine ⟨?_, fun id pointer found => ?_⟩
      · cases profile with
        | none => exact answers_of_unset (Or.inl rfl) []
        | some profile =>
            exact (settled.answers_setProfile_iff gone profile).mpr (harmless.2 profile rfl)
      · rcases settled.exists_owner_of_deleted gone found with ⟨owner, dead, owns⟩
        exact ⟨owner, owns, Or.inl dead⟩
  | setProtocol version =>
      change factory.setProtocol version = _ at called
      cases set : factory.mProfile with
      | none =>
          rw [setProtocol_of_no_profile set] at called
          cases called
          exact Settled.clear factory
      | some profile =>
          by_cases plain : factory.clear.read version = NO_PROTOCOL
          · rw [setProtocol_of_none set plain] at called
            cases called
            exact Settled.clear factory
          · cases version with
            | own => exact absurd rfl plain
            | given text =>
                change text ≠ NO_PROTOCOL at plain
                rw [setProtocol_of_given set plain] at called
                split at called
                · cases called
                · next there =>
                  rcases Option.map_eq_some_iff.mp called with ⟨lists, accepted, same⟩
                  cases same
                  exact Settled.setProtocol set there plain accepted
  | addCreator type creator =>
      rcases harmless with ⟨what, rfl⟩
      cases called
      exact settled

/-- Along every sequence of calls, the factory follows its profile exactly as
long as the calls are harmless. -/
theorem follows_profile_iff (events : List (FactoryCall Creator)) :
    AtEach step Follows fresh events ↔
      AtEach step (fun _ factory event => Harmless factory event) fresh events := by
  refine atEach_iff (fun _ => True)
    (fun before factory => addedSince before = [] ∧ Settled factory)
    (fun _ _ _ => trivial) ⟨rfl, Settled.fresh⟩ ?_ ?_ trivial
  · rintro before factory event _ ⟨none, settled⟩
    exact settled.follows_iff none event
  · rintro before factory event next _ ⟨none, settled⟩ harmless stepped
    exact ⟨addedSince_of_harmless none harmless, settled.step harmless stepped⟩

/-- `TestProfile`, which knows one version. -/
def testProfile : ProfileObject String where
  number := 0
  getCreators protocol :=
    if protocol = bytesOf "0.1a" then .ok [(0, "TestTransferableRcvd")]
    else .error "Unknown protocol"
  getCreatorIds protocol :=
    if protocol = bytesOf "0.1a" then .ok [("TestTransferableSent", 0)]
    else .error "Unknown protocol"

/-- The profile of the tests refuses a version, and the factory does not throw
what it should. -/
theorem refusal_not_followed :
    ¬ AtEach step Follows fresh
      [.setProfile (some testProfile), .setProtocol (.given (bytesOf "0.2"))] := by
  intro follows
  rcases follows [.setProfile (some testProfile)] (.setProtocol (.given (bytesOf "0.2"))) [] _ rfl
    rfl with ⟨next, outcome, called, _⟩
  cases called

/-! ## The profiles of the programs -/

/-- A profile that gives the same lists for every version. -/
def constantProfile (number : Nat) (profile : Profile Creator) : ProfileObject Creator where
  number := number
  getCreators _ := .ok profile.mCreators
  getCreatorIds _ := .ok profile.mCreatorIds

/-- With such a profile, setting a version never fails, and the factory finds
what the one without owners finds. -/
theorem creator_of_constantProfile (number : Nat) (profile : Profile Creator)
    (set : factory.mProfile = some (constantProfile number profile))
    (there : number ∉ factory.deleted) (version : List UInt8) :
    ∃ next, factory.setProtocol (.given version) = some (next, .ok ()) ∧
      ∀ id, (next.creator id).map CreatorPointer.creator = profile.creatorFor version id := by
  by_cases real : version = NO_PROTOCOL
  · refine ⟨factory.clear, setProtocol_of_none set real, fun id => ?_⟩
    simp only [creator, clear, set, if_true, Profile.creatorFor, real]
    rfl
  · have lists : (constantProfile number profile).lists version =
        some (profile.mCreators, profile.mCreatorIds) := rfl
    refine ⟨factory.clear.filled (constantProfile number profile) version
      (profile.mCreators, profile.mCreatorIds), ?_, fun id => ?_⟩
    · rw [setProtocol_of_given set real, lists]
      exact if_neg there
    · simp only [creator, filled, clear, set, if_neg real, Profile.creatorFor,
        FiniteMap.getElem?_ofPairs, lookup_ownedBy]
      cases profile.mCreators.lookup id <;> rfl

end VersionedFactory

end Messaging
end Pxc
