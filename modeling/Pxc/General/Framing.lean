import Mathlib.Data.List.Infix
import Mathlib.Tactic.Common

namespace Pxc
namespace General

/-!
# Frames in a stream

A writer puts frames into a stream, one after another, and may stop for good
within one of them.  The stream then holds some frames, and perhaps a part of
one more at its end.

A reader sees the stream from its start.  As long as not everything has come
to it, what it has before it is of the same kind: the first of the frames, and
perhaps a part of the next.
-/

universe u v

variable {Frame : Type u} {Byte : Type v} {bytes : Frame → List Byte}

/-- The stream holds these frames, and a part of the last one, if there is
one, at its end. -/
inductive Carries (bytes : Frame → List Byte) (frames : List Frame) :
    Option Frame → List Byte → Prop where
  | whole : Carries bytes frames none (frames.flatMap bytes)
  | cut (frame : Frame) (part missing : List Byte) (split : part ++ missing = bytes frame)
      (incomplete : missing ≠ []) : Carries bytes frames (some frame) (frames.flatMap bytes ++ part)

namespace Carries

variable {frames : List Frame} {frame : Frame} {last : Option Frame} {stream part : List Byte}

theorem nil : Carries bytes [] none [] :=
  .whole

theorem write (carries : Carries bytes frames none stream) (frame : Frame) :
    Carries bytes (frames ++ [frame]) none (stream ++ bytes frame) := by
  cases carries
  have appended : (frames ++ [frame]).flatMap bytes = frames.flatMap bytes ++ bytes frame := by
    rw [List.flatMap_append, List.flatMap_singleton]
  exact appended ▸ .whole

theorem stop (carries : Carries bytes frames none stream) (initial : part <+: bytes frame)
    (incomplete : part ≠ bytes frame) : Carries bytes frames (some frame) (stream ++ part) := by
  cases carries
  rcases initial with ⟨missing, split⟩
  refine .cut frame part missing split ?_
  rintro rfl
  exact incomplete ((List.append_nil part).symm.trans split)

theorem cons (carries : Carries bytes frames last stream) (frame : Frame) :
    Carries bytes (frame :: frames) last (bytes frame ++ stream) := by
  have begins : bytes frame ++ frames.flatMap bytes = (frame :: frames).flatMap bytes :=
    List.flatMap_cons.symm
  cases carries with
  | whole => exact begins ▸ .whole
  | cut stopped part missing split incomplete =>
      rw [← List.append_assoc, begins]
      exact .cut stopped part missing split incomplete

/-- A reader that takes the first frame finds the others. -/
theorem uncons (carries : Carries bytes (frame :: frames) last stream) :
    ∃ rest, stream = bytes frame ++ rest ∧ Carries bytes frames last rest := by
  cases carries with
  | whole => exact ⟨frames.flatMap bytes, List.flatMap_cons, .whole⟩
  | cut stopped part missing split incomplete =>
      refine ⟨frames.flatMap bytes ++ part, ?_, .cut stopped part missing split incomplete⟩
      rw [List.flatMap_cons, List.append_assoc]

/-- What has come to the reader so far.  The frame that it has a part of is
the next one. -/
theorem of_initial (carries : Carries bytes frames last stream) (initial : part <+: stream) :
    ∃ earlier next, earlier <+: frames ∧ Carries bytes earlier next part ∧
      ∀ frame ∈ next, frame ∈ frames ∨ frame ∈ last := by
  induction frames generalizing stream part with
  | nil =>
      cases carries with
      | whole =>
          have nothing : part = [] := List.prefix_nil.mp initial
          rw [nothing]
          exact ⟨[], none, List.nil_prefix, .whole, fun _ impossible => by cases impossible⟩
      | cut stopped written missing split incomplete =>
          rcases initial with ⟨later, same⟩
          rw [List.flatMap_nil, List.nil_append] at same
          refine ⟨[], some stopped, List.nil_prefix, .cut stopped part (later ++ missing) ?_ ?_,
            fun _ member => Or.inr member⟩
          · rw [← List.append_assoc, same, split]
          · exact List.append_ne_nil_of_right_ne_nil later incomplete
  | cons frame frames inductionHypothesis =>
      rcases carries.uncons with ⟨rest, rfl, others⟩
      by_cases whole : bytes frame <+: part
      · rcases whole with ⟨after, rfl⟩
        rcases inductionHypothesis others ((List.prefix_append_right_inj _).mp initial) with
          ⟨earlier, next, begins, arrived, known⟩
        refine ⟨frame :: earlier, next, (List.prefix_cons_inj frame).mpr begins,
          arrived.cons frame, fun stopped member => ?_⟩
        exact (known stopped member).imp (List.mem_cons_of_mem frame) id
      · have within : part <+: bytes frame :=
          (List.prefix_or_prefix_of_prefix (List.prefix_append (bytes frame) rest)
            initial).resolve_left whole
        have incomplete : part ≠ bytes frame := fun same => whole (same ▸ List.prefix_rfl)
        refine ⟨[], some frame, List.nil_prefix, nil.stop within incomplete, ?_⟩
        intro stopped member
        exact Or.inl (Option.some.inj member ▸ List.mem_cons_self)

/-- What a reader finds first: a whole frame, a part of the last one, or
nothing. -/
theorem cases_first (carries : Carries bytes frames last stream) :
    (∃ frame later rest, frames = frame :: later ∧ stream = bytes frame ++ rest ∧
      Carries bytes later last rest) ∨
    (∃ frame missing, frames = [] ∧ last = some frame ∧ stream ++ missing = bytes frame ∧
      missing ≠ []) ∨
    (frames = [] ∧ last = none ∧ stream = []) := by
  cases frames with
  | nil =>
      cases carries with
      | whole => exact Or.inr (Or.inr ⟨rfl, rfl, rfl⟩)
      | cut frame part missing split incomplete =>
          exact Or.inr (Or.inl ⟨frame, missing, rfl, rfl, split, incomplete⟩)
  | cons frame later =>
      rcases carries.uncons with ⟨rest, split, others⟩
      exact Or.inl ⟨frame, later, rest, rfl, split, others⟩

theorem frames_eq_nil (carries : Carries bytes frames last [])
    (nonempty : ∀ frame ∈ frames, bytes frame ≠ []) : frames = [] := by
  cases frames with
  | nil => rfl
  | cons frame frames =>
      rcases carries.uncons with ⟨rest, split, _⟩
      exact absurd (List.append_eq_nil_iff.mp split.symm).1 (nonempty frame List.mem_cons_self)

end Carries

end General
end Pxc
