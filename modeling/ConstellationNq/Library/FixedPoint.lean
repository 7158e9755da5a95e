import ConstellationNq.Library.Loop

/-!
# Loops that shrink or grow a finite set to a fixed point

A loop that drops the members its own set no longer supports ends with the
greatest supported subset. A loop that only adds ends when a turn adds nothing.
Both compare sizes to see whether a turn changed anything.
-/

set_option autoImplicit false

namespace ConstellationNq.Library.FixedPoint

open Library.Loop

universe u

section Pruning

variable {α : Type u} (keep : List α → α → Bool)

def pruneTurn (items : List α) : Option (List α) :=
  if (items.filter (keep items)).length = items.length then none else some (items.filter (keep items))

/-- Drop unsupported members until a turn drops none. -/
def prune (items : List α) : List α := iterate (pruneTurn keep) items.length items

theorem pruneTurn_eq_some {items next : List α} (taken : pruneTurn keep items = some next) :
    next = items.filter (keep items) ∧ next.length < items.length := by
  unfold pruneTurn at taken
  split at taken
  · cases taken
  · rename_i changed
    cases taken
    exact ⟨rfl, Nat.lt_of_le_of_ne (List.length_filter_le _ _) changed⟩

theorem prune_sublist (items : List α) : (prune keep items).Sublist items := by
  refine iterate_preserves (fun kept : List α => kept.Sublist items) ?_ _ (List.Sublist.refl items)
  intro state next within taken
  rw [(pruneTurn_eq_some keep taken).1]
  exact List.filter_sublist.trans within

/-- The loop ends: one more turn would drop nothing. -/
theorem pruneTurn_prune (items : List α) : pruneTurn keep (prune keep items) = none := by
  refine iterate_finished (fun _ => True) List.length ?_ trivial (Nat.le_refl _)
  intro state next _ taken
  exact ⟨trivial, (pruneTurn_eq_some keep taken).2⟩

/-- The members that are left support one another. -/
theorem keep_of_mem_prune {items : List α} {item : α} (member : item ∈ prune keep items) :
    keep (prune keep items) item = true := by
  have finished := pruneTurn_prune keep items
  unfold pruneTurn at finished
  split at finished
  · rename_i unchanged
    exact List.length_filter_eq_length_iff.mp unchanged item member
  · cases finished

/-- Every subset whose members support one another is kept. -/
theorem subset_prune {items closed : List α}
    (monotone : ∀ smaller larger : List α, smaller ⊆ larger → ∀ item,
      keep smaller item = true → keep larger item = true)
    (within : closed ⊆ items) (supported : ∀ item ∈ closed, keep closed item = true) :
    closed ⊆ prune keep items := by
  refine iterate_preserves (fun kept => closed ⊆ kept) ?_ _ within
  intro state next included taken item member
  rw [(pruneTurn_eq_some keep taken).1]
  exact List.mem_filter.mpr ⟨included member, monotone closed state included item (supported item member)⟩

end Pruning

section Growing

variable {σ : Type u} (grow : σ → σ) (size : σ → Nat)

def growTurn (state : σ) : Option σ :=
  if size (grow state) = size state then none else some (grow state)

/-- Grow until a turn leaves the size unchanged. -/
def saturate (fuel : Nat) (state : σ) : σ := iterate (growTurn grow size) fuel state

theorem growTurn_eq_some {state next : σ} (taken : growTurn grow size state = some next) :
    next = grow state ∧ size next ≠ size state := by
  unfold growTurn at taken
  split at taken
  · cases taken
  · rename_i changed
    cases taken
    exact ⟨rfl, changed⟩

theorem saturate_preserves (invariant : σ → Prop)
    (preserved : ∀ state, invariant state → invariant (grow state)) {fuel : Nat} {state : σ}
    (holds : invariant state) : invariant (saturate grow size fuel state) := by
  refine iterate_preserves invariant ?_ fuel holds
  intro state next holds taken
  rw [(growTurn_eq_some grow size taken).1]
  exact preserved state holds

/-- With a bound on the size the loop ends in a state that one more turn does
not enlarge. -/
theorem saturate_stable (invariant : σ → Prop) {bound : Nat}
    (preserved : ∀ state, invariant state →
      invariant (grow state) ∧ size state ≤ size (grow state) ∧ size (grow state) ≤ bound)
    {fuel : Nat} {state : σ} (holds : invariant state) (enough : bound ≤ fuel) :
    size (grow (saturate grow size fuel state)) = size (saturate grow size fuel state) := by
  have finished : growTurn grow size (saturate grow size fuel state) = none := by
    refine iterate_finished invariant (fun state => bound - size state) ?_ holds (by omega)
    intro state next holds taken
    obtain ⟨rfl, changed⟩ := growTurn_eq_some grow size taken
    obtain ⟨kept, larger, bounded⟩ := preserved state holds
    exact ⟨kept, by omega⟩
  unfold growTurn at finished
  split at finished
  · assumption
  · cases finished

end Growing

end ConstellationNq.Library.FixedPoint
