import Mathlib.Data.List.Basic
import Mathlib.Data.List.Infix

/-!
# Runs of a text

A run is a contiguous part of a text all of whose symbols are of one class. A symbol of
another class separates the runs of what stands before it from those behind it.
-/

set_option autoImplicit false

namespace ConstellationNq.Library.Runs

universe u

variable {α : Type u} (inRun : α → Bool)

def RunsBelow (limit : Nat) (text : List α) : Prop :=
  ∀ run, run <:+: text → run.all inRun = true → run.length < limit

variable {inRun} {limit : Nat} {left right text : List α} {separator : α}

theorem RunsBelow.of_part (below : RunsBelow inRun limit text) {part : List α} (inside : part <:+: text) :
    RunsBelow inRun limit part :=
  fun run runs all => below run (runs.trans inside) all

theorem RunsBelow.of_length (short : text.length < limit) : RunsBelow inRun limit text :=
  fun _ runs _ => runs.length_le.trans_lt short

/-- A part without the separator lies on one side of it. -/
theorem part_of_append {part : List α} (within : part <:+: left ++ separator :: right) (free : separator ∉ part) :
    part <:+: left ∨ part <:+: right := by
  obtain ⟨before, after, split⟩ := within
  rcases List.append_eq_append_iff.mp split with ⟨rest, rfl, -⟩ | ⟨middle, reaches, tail⟩
  · exact .inl ⟨before, rest, rfl⟩
  · cases middle with
    | nil =>
        rw [List.append_nil] at reaches
        exact .inl ⟨before, [], by rw [List.append_nil, reaches]⟩
    | cons symbol middle =>
        obtain ⟨rfl, rfl⟩ := List.cons.inj tail
        rcases List.append_eq_append_iff.mp reaches with ⟨inner, -, rfl⟩ | ⟨inner, -, tail⟩
        · exact absurd (List.mem_append_right inner List.mem_cons_self) free
        · cases inner with
          | nil => exact absurd (by rw [← List.nil_append part, ← tail]; exact List.mem_cons_self) free
          | cons symbol inner =>
              obtain ⟨-, rfl⟩ := List.cons.inj tail
              exact .inr ⟨inner, after, rfl⟩

theorem runsBelow_separated (outside : inRun separator = false) :
    RunsBelow inRun limit (left ++ separator :: right) ↔ RunsBelow inRun limit left ∧ RunsBelow inRun limit right := by
  constructor
  · intro below
    exact ⟨below.of_part (List.infix_append' [] left (separator :: right)),
      below.of_part (List.infix_append_of_infix_right (List.suffix_cons separator right).isInfix)⟩
  · rintro ⟨leftBelow, rightBelow⟩ run runs all
    have free : separator ∉ run := by
      intro member
      have inside := List.all_eq_true.mp all separator member
      rw [outside] at inside
      cases inside
    rcases part_of_append runs free with inLeft | inRight
    · exact leftBelow run inLeft all
    · exact rightBelow run inRight all

/-- It is enough to look at the run that starts at each place. -/
theorem runsBelow_iff_tails :
    RunsBelow inRun limit text ↔ ∀ tail ∈ text.tails, (tail.takeWhile inRun).length < limit := by
  constructor
  · intro below tail member
    have within := ((List.takeWhile_prefix inRun).isInfix).trans (((List.mem_tails _ _).mp member).isInfix)
    exact below _ within (List.all_takeWhile ..)
  · rintro short run ⟨before, after, rfl⟩ all
    have started := short (run ++ after) ((List.mem_tails _ _).mpr ⟨before, by rw [List.append_assoc]⟩)
    rw [List.takeWhile_append_of_pos (fun symbol member => List.all_eq_true.mp all symbol member),
      List.length_append] at started
    omega

instance : Decidable (RunsBelow inRun limit text) := decidable_of_iff _ runsBelow_iff_tails.symm

end ConstellationNq.Library.Runs
