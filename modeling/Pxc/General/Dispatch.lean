import Mathlib.Tactic.Common

namespace Pxc
namespace General

/-!
# Virtual calls

A virtual call runs the final overrider of the function that it names: the
declaration nearest to the object's own class, going from there to the bases,
that has the same name, the same parameter types and the same constness.  A
declaration that differs in one of these does not override.  It hides the name
from callers that know the derived class, and a call through the base does not
see it.

A lineage lists the declarations of each class, from the object's own class to
the class where the function was made virtual.
-/

universe u v

/-- What has to agree for one function to override another. -/
structure Signature (Ty : Type u) where
  name : String
  parameters : List Ty
  isConst : Bool
  deriving DecidableEq, Repr

/-- A member function.  A pure virtual one has no body. -/
structure Declaration (Ty : Type u) (Body : Type v) where
  signature : Signature Ty
  body : Option Body

variable {Ty : Type u} {Body : Type v} [DecidableEq Ty]

/-- The body that a virtual call runs. -/
def finalOverrider (signature : Signature Ty) : List (List (Declaration Ty Body)) → Option Body
  | [] => none
  | declarations :: bases =>
      match declarations.find? fun declaration => declaration.signature = signature with
      | some declaration => declaration.body
      | none => finalOverrider signature bases

/-- A function with the same signature overrides. -/
theorem finalOverrider_overrides (declaration : Declaration Ty Body)
    (others : List (Declaration Ty Body)) (bases : List (List (Declaration Ty Body))) :
    finalOverrider declaration.signature ((declaration :: others) :: bases) = declaration.body := by
  simp only [finalOverrider, List.find?_cons, decide_true]

/-- Functions with other signatures only hide. -/
theorem finalOverrider_hides {signature : Signature Ty}
    {declarations : List (Declaration Ty Body)} (bases : List (List (Declaration Ty Body)))
    (others : ∀ declaration ∈ declarations, declaration.signature ≠ signature) :
    finalOverrider signature (declarations :: bases) = finalOverrider signature bases := by
  have none : declarations.find? (fun declaration => declaration.signature = signature) = none := by
    rw [List.find?_eq_none]
    intro declaration member same
    exact others declaration member (of_decide_eq_true same)
  rw [finalOverrider, none]

end General
end Pxc
