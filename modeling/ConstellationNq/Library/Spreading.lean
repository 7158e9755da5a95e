import ConstellationNq.Library.FixedPoint
import Mathlib.Data.Finset.Card
import Mathlib.Logic.Relation

/-!
# Spreading along the edges of a finite graph

A set that takes in the source of every edge whose target it holds, turn after turn
until its size stays the same, ends as the set of everything that leads to it.
-/

set_option autoImplicit false

namespace ConstellationNq.Library.Spreading

open Library.FixedPoint

universe u v

variable {α : Type u} {ε : Type v} [DecidableEq α] (source target : ε → α)

def spread (reached : Finset α) (edge : ε) : Finset α :=
  if target edge ∈ reached then insert (source edge) reached else reached

def spreadAll (edges : List ε) (reached : Finset α) : Finset α := edges.foldl (spread source target) reached

/-- There is an edge between two nodes. -/
def Leads (edges : List ε) (before after : α) : Prop := ∃ edge ∈ edges, source edge = before ∧ target edge = after

variable {source target}

theorem subset_spread (reached : Finset α) (edge : ε) : reached ⊆ spread source target reached edge := by
  unfold spread
  split
  · exact Finset.subset_insert _ _
  · exact Finset.Subset.refl _

theorem subset_spreadAll (edges : List ε) (reached : Finset α) : reached ⊆ spreadAll source target edges reached := by
  induction edges generalizing reached with
  | nil => exact Finset.Subset.refl _
  | cons edge edges ih => exact (subset_spread reached edge).trans (ih _)

variable {reached : Finset α} {edges : List ε}

theorem source_mem_spreadAll {edge : ε} (member : edge ∈ edges) (held : target edge ∈ reached) :
    source edge ∈ spreadAll source target edges reached := by
  induction edges generalizing reached with
  | nil => cases member
  | cons first edges ih =>
      rcases List.mem_cons.mp member with rfl | later
      · refine subset_spreadAll edges _ ?_
        unfold spread
        rw [if_pos held]
        exact Finset.mem_insert_self _ _
      · exact ih later (subset_spread reached first held)

/-- A property that passes from targets to sources holds of everything taken in. -/
theorem forall_mem_spreadAll {holds : α → Prop} (passes : ∀ edge ∈ edges, holds (target edge) → holds (source edge))
    (start : ∀ node ∈ reached, holds node) : ∀ node ∈ spreadAll source target edges reached, holds node := by
  induction edges generalizing reached with
  | nil => exact start
  | cons edge edges ih =>
      refine ih (fun other member => passes other (List.mem_cons_of_mem _ member)) ?_
      intro node member
      unfold spread at member
      split at member
      case isTrue held =>
        rcases Finset.mem_insert.mp member with rfl | stored
        · exact passes edge List.mem_cons_self (start _ held)
        · exact start node stored
      case isFalse => exact start node member

/-- A set that a turn does not enlarge is closed under the edges. -/
theorem closed_of_card_eq (unchanged : (spreadAll source target edges reached).card = reached.card) {before after : α}
    (leads : Leads source target edges before after) (held : after ∈ reached) : before ∈ reached := by
  obtain ⟨edge, member, rfl, rfl⟩ := leads
  rw [Finset.eq_of_subset_of_card_le (subset_spreadAll edges reached) unchanged.le]
  exact source_mem_spreadAll member held

section Saturation

variable (source target) (edges : List ε) (selected : Finset α)

/-- Turns until one adds nothing. Every turn before the last adds the source of an edge. -/
def spreadFrom : Finset α :=
  saturate (spreadAll source target edges) Finset.card (selected.card + edges.length) selected

/-- The loop leaves by itself. -/
theorem spreadFrom_stable :
    (spreadAll source target edges (spreadFrom source target edges selected)).card =
      (spreadFrom source target edges selected).card := by
  refine saturate_stable _ _ (fun reached => reached ⊆ selected ∪ (edges.map source).toFinset) ?_
    Finset.subset_union_left (le_refl _)
  intro reached within
  have kept : spreadAll source target edges reached ⊆ selected ∪ (edges.map source).toFinset := by
    refine forall_mem_spreadAll (fun edge member _ => ?_) within
    exact Finset.mem_union_right _ (List.mem_toFinset.mpr (List.mem_map_of_mem member))
  refine ⟨kept, Finset.card_le_card (subset_spreadAll edges reached), ?_⟩
  calc (spreadAll source target edges reached).card
      ≤ (selected ∪ (edges.map source).toFinset).card := Finset.card_le_card kept
    _ ≤ selected.card + (edges.map source).toFinset.card := Finset.card_union_le _ _
    _ ≤ selected.card + edges.length := by
        have distinct := List.toFinset_card_le (edges.map source)
        rw [List.length_map] at distinct
        omega

variable {source target edges selected}

theorem mem_spreadFrom {node : α} :
    node ∈ spreadFrom source target edges selected ↔
      ∃ goal ∈ selected, Relation.ReflTransGen (Leads source target edges) node goal := by
  constructor
  · refine saturate_preserves _ _ (fun reached => ∀ node ∈ reached, ∃ goal ∈ selected,
      Relation.ReflTransGen (Leads source target edges) node goal) ?_ (fun node member => ⟨node, member, .refl⟩) node
    intro reached holds
    refine forall_mem_spreadAll (fun edge member => ?_) holds
    rintro ⟨goal, chosen, path⟩
    exact ⟨goal, chosen, .head ⟨edge, member, rfl, rfl⟩ path⟩
  · rintro ⟨goal, chosen, path⟩
    have start : goal ∈ spreadFrom source target edges selected :=
      saturate_preserves _ _ (fun reached => goal ∈ reached)
        (fun reached held => subset_spreadAll edges reached held) chosen
    -- Along the path, from its end.
    induction path using Relation.ReflTransGen.head_induction_on with
    | refl => exact start
    | head step _ ih => exact closed_of_card_eq (spreadFrom_stable source target edges selected) step ih

end Saturation

end ConstellationNq.Library.Spreading
