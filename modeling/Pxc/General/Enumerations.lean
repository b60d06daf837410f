import Mathlib.Data.List.Nodup
import Pxc.General.FiniteMaps

namespace Pxc
namespace General

/-!
# Lists that name every member once

A list enumerates a set when it has exactly its members, each of them once.
The keys of a map are enumerated in their order.  Enumerations of disjoint
sets are joined in the order of an index, which is how a program visits the
entries of tables that are themselves entries of a table.
-/

universe u v

variable {Member : Type u} {Index : Type v}

/-- The list has exactly the members, each once. -/
structure Enumerates (members : List Member) (belongs : Member → Prop) : Prop where
  nodup : members.Nodup
  mem_iff : ∀ member, member ∈ members ↔ belongs member

namespace Enumerates

variable {members : List Member} {belongs others : Member → Prop} {member : Member}

theorem nil (nobody : ∀ member, ¬ belongs member) : Enumerates [] belongs := by
  refine ⟨List.nodup_nil, ?_⟩
  intro member
  simp only [List.not_mem_nil, nobody]

theorem singleton (member : Member) : Enumerates [member] fun other => other = member :=
  ⟨List.nodup_singleton member, fun _ => List.mem_singleton⟩

theorem congr (enumerates : Enumerates members belongs)
    (same : ∀ member, belongs member ↔ others member) : Enumerates members others :=
  ⟨enumerates.nodup, fun member => (enumerates.mem_iff member).trans (same member)⟩

theorem keys {Key : Type u} {Value : Type v} [Ord Key] [Std.TransOrd Key] [Std.LawfulEqOrd Key]
    (entries : FiniteMap Key Value) : Enumerates entries.keys fun key => key ∈ entries :=
  ⟨Std.ExtTreeMap.nodup_keys, fun _ => Std.ExtTreeMap.mem_keys⟩

/-- Sets that no two indices share a member of, one after the other. -/
theorem flatMap {indices : List Index} {part : Index → List Member}
    {within : Index → Member → Prop} (nodup : indices.Nodup)
    (each : ∀ index ∈ indices, Enumerates (part index) (within index))
    (apart : ∀ first ∈ indices, ∀ second ∈ indices, ∀ member, within first member →
      within second member → first = second) :
    Enumerates (indices.flatMap part) fun member =>
      ∃ index, index ∈ indices ∧ within index member where
  nodup := by
    refine List.nodup_flatMap.mpr ⟨fun index listed => (each index listed).nodup, ?_⟩
    apply nodup.imp_of_mem
    intro first second inFirst inSecond different member belongsFirst belongsSecond
    apply different
    exact apart first inFirst second inSecond member
      (((each first inFirst).mem_iff member).mp belongsFirst)
      (((each second inSecond).mem_iff member).mp belongsSecond)
  mem_iff := by
    intro member
    rw [List.mem_flatMap]
    refine exists_congr fun index => and_congr_right fun listed => ?_
    exact (each index listed).mem_iff member

end Enumerates

end General
end Pxc
