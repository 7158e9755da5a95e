import Mathlib.Data.List.Forall2
import Mathlib.Data.List.Sort

/-!
# Lists sorted by a key

Sorting by a key that tells the members of a list apart gives the same list for every
order they come in.
-/

set_option autoImplicit false

namespace ConstellationNq.Library.Sorting

universe u v w

section Sorting

variable {α : Type u} {β : Type v} {κ : Type w} [LinearOrder κ] {key : α → κ} {left right rows : List α}

def sortBy (key : α → κ) (rows : List α) : List α :=
  rows.insertionSort fun left right => key left ≤ key right

theorem sortBy_perm (key : α → κ) (rows : List α) : (sortBy key rows).Perm rows :=
  List.perm_insertionSort _ rows

@[simp] theorem mem_sortBy {row : α} : row ∈ sortBy key rows ↔ row ∈ rows :=
  (sortBy_perm key rows).mem_iff

theorem sortBy_sorted (key : α → κ) (rows : List α) :
    (sortBy key rows).Pairwise fun left right => key left ≤ key right := by
  have : Std.Total fun left right : α => key left ≤ key right := ⟨fun _ _ => le_total _ _⟩
  have : IsTrans α fun left right => key left ≤ key right := ⟨fun _ _ _ => le_trans⟩
  exact List.pairwise_insertionSort _ rows

theorem sortBy_eq_nil_iff : sortBy key rows = [] ↔ rows = [] := by
  constructor
  · intro sorted
    have perm := sortBy_perm key rows
    rw [sorted] at perm
    exact perm.nil_eq.symm
  · rintro rfl
    rfl

/-- The first of the sorted list is a row of least key. -/
theorem sortBy_head {first : α} {rest : List α} (sorted : sortBy key rows = first :: rest) :
    first ∈ rows ∧ ∀ row ∈ rows, key first ≤ key row := by
  refine ⟨mem_sortBy.mp (sorted ▸ List.mem_cons_self), fun row member => ?_⟩
  have ordered := sortBy_sorted key rows
  rw [sorted, List.pairwise_cons] at ordered
  rcases List.mem_cons.mp (sorted ▸ mem_sortBy.mpr member) with rfl | later
  · exact le_refl _
  · exact ordered.1 row later

theorem sortBy_of_sorted (sorted : rows.Pairwise fun left right => key left ≤ key right) :
    sortBy key rows = rows :=
  sorted.insertionSort_eq

/-- Members with one key are the same row, so only one order is sorted. -/
private theorem sortBy_eq_of_perm (perm : left.Perm right)
    (same : ∀ first ∈ left, ∀ second ∈ left, key first = key second → first = second) :
    sortBy key left = sortBy key right := by
  have sorted : (sortBy key left).Perm (sortBy key right) :=
    (sortBy_perm key left).trans (perm.trans (sortBy_perm key right).symm)
  refine sorted.eq_of_pairwise ?_ (sortBy_sorted key left) (sortBy_sorted key right)
  intro first second firstMember secondMember below above
  refine same first (mem_sortBy.mp firstMember) second ?_ (le_antisymm below above)
  exact perm.mem_iff.mpr (mem_sortBy.mp secondMember)

theorem sortBy_congr (perm : left.Perm right) (distinct : (left.map key).Nodup) :
    sortBy key left = sortBy key right :=
  sortBy_eq_of_perm perm fun _ first _ second => List.inj_on_of_nodup_map distinct first second

theorem sortBy_congr_of_injective (perm : left.Perm right) (injective : Function.Injective key) :
    sortBy key left = sortBy key right :=
  sortBy_eq_of_perm perm fun _ _ _ _ same => injective same

theorem sortBy_map {rewrite : α → β} {after : β → κ} (same : ∀ row, after (rewrite row) = key row) :
    sortBy after (rows.map rewrite) = (sortBy key rows).map rewrite := by
  refine (List.map_insertionSort _ _ rewrite rows fun first _ second _ => ?_).symm
  rw [same, same]

/-- A selection of sorted rows is sorted. -/
theorem sortBy_filter_sortBy (keep : α → Bool) :
    sortBy key ((sortBy key rows).filter keep) = (sortBy key rows).filter keep :=
  sortBy_of_sorted ((sortBy_sorted key rows).sublist List.filter_sublist)

end Sorting

section Permuted

variable {α : Type u} {β : Type v}

/-- Two lists that are related member by member once one of them is reordered. -/
def PermutedBy (related : α → β → Prop) (left : List α) (right : List β) : Prop :=
  ∃ middle, left.Perm middle ∧ List.Forall₂ related middle right

variable {related : α → β → Prop} {left : List α} {right : List β}

theorem PermutedBy.map_perm {γ : Type w} (permuted : PermutedBy related left right) {first : α → γ} {second : β → γ}
    (same : ∀ before after, related before after → first before = second after) :
    (left.map first).Perm (right.map second) := by
  obtain ⟨middle, perm, aligned⟩ := permuted
  have mapped : middle.map first = right.map second := by
    clear perm
    induction aligned with
    | nil => rfl
    | cons head _ ih => rw [List.map_cons, List.map_cons, same _ _ head, ih]
  exact mapped ▸ perm.map first

private theorem exists_aligned {middle : List α} (aligned : List.Forall₂ related middle right) {after : β}
    (member : after ∈ right) : ∃ before ∈ middle, related before after := by
  induction aligned with
  | nil => cases member
  | cons head _ ih =>
      rcases List.mem_cons.mp member with rfl | later
      · exact ⟨_, List.mem_cons_self, head⟩
      · obtain ⟨before, stored, same⟩ := ih later
        exact ⟨before, List.mem_cons_of_mem _ stored, same⟩

theorem PermutedBy.exists_left (permuted : PermutedBy related left right) {after : β} (member : after ∈ right) :
    ∃ before ∈ left, related before after := by
  obtain ⟨middle, perm, aligned⟩ := permuted
  obtain ⟨before, stored, same⟩ := exists_aligned aligned member
  exact ⟨before, perm.mem_iff.mpr stored, same⟩

theorem PermutedBy.exists_right (permuted : PermutedBy related left right) {before : α} (member : before ∈ left) :
    ∃ after ∈ right, related before after := by
  obtain ⟨middle, perm, aligned⟩ := permuted
  exact exists_aligned aligned.flip (perm.mem_iff.mp member)

theorem PermutedBy.of_perm {related : α → α → Prop} (reflexive : ∀ row, related row row) {right : List α}
    (perm : left.Perm right) : PermutedBy related left right :=
  ⟨right, perm, List.forall₂_same.mpr fun row _ => reflexive row⟩

theorem PermutedBy.length_eq (permuted : PermutedBy related left right) : left.length = right.length := by
  obtain ⟨middle, perm, aligned⟩ := permuted
  exact perm.length_eq.trans aligned.length_eq

end Permuted

end ConstellationNq.Library.Sorting
