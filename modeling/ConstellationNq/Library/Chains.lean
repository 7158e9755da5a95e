import Mathlib.Data.List.Chain
import Mathlib.Data.List.Nodup
import Mathlib.Data.List.Pairwise

/-!
# Chains

A collection cut into separate chains in which each member follows the one before it. If
a member follows at most one other, then the members that nothing follows are the last
ones of the chains.
-/

set_option autoImplicit false

namespace ConstellationNq.Library.Chains

universe u

variable {α : Type u} {follows : α → α → Prop} {items chain : List α} {chains : List (List α)} {item : α}

structure Chained (follows : α → α → Prop) (items : List α) (chains : List (List α)) : Prop where
  covers : chains.flatten.Perm items
  nonempty : ∀ chain ∈ chains, chain ≠ []
  linked : ∀ chain ∈ chains, chain.IsChain follows
  separate : ∀ chain ∈ chains, ∀ head ∈ chain.head?, ∀ other ∈ items, ¬ follows other head

def Unfollowed (follows : α → α → Prop) (items : List α) (item : α) : Prop := ∀ other ∈ items, ¬ follows item other

variable (chained : Chained follows items chains)

include chained

theorem Chained.mem (member : chain ∈ chains) (inside : item ∈ chain) : item ∈ items :=
  chained.covers.subset (List.mem_flatten.mpr ⟨chain, member, inside⟩)

theorem Chained.not_top {before after : List α} {next : α} (member : before ++ item :: next :: after ∈ chains) :
    ¬ Unfollowed follows items item := by
  intro top
  have linked := (List.isChain_append_cons_cons.mp (chained.linked _ member)).2.1
  exact top next (chained.mem member (by simp)) linked

/-- A member that follows another stands right behind it in its chain. -/
theorem Chained.behind (alone : ∀ one ∈ items, ∀ two ∈ items, ∀ above, follows one above → follows two above → one = two)
    {above : α} (inItems : item ∈ items) (member : above ∈ items) (follow : follows item above) :
    ∃ before after, before ++ item :: above :: after ∈ chains := by
  obtain ⟨chain, inChains, inside⟩ := List.mem_flatten.mp (chained.covers.symm.subset member)
  obtain ⟨before, after, rfl⟩ := List.append_of_mem inside
  rcases List.eq_nil_or_concat before with rfl | ⟨before, below, rfl⟩
  · exact absurd follow (chained.separate _ inChains above rfl item inItems)
  · rw [List.concat_append] at inChains
    have linked := (List.isChain_append_cons_cons.mp (chained.linked _ inChains)).2.1
    rw [alone item inItems below (chained.mem inChains (by simp)) above follow linked]
    exact ⟨before, after, inChains⟩

theorem Chained.top_last (distinct : items.Nodup)
    (alone : ∀ one ∈ items, ∀ two ∈ items, ∀ above, follows one above → follows two above → one = two)
    {before : List α} (member : before ++ [item] ∈ chains) : Unfollowed follows items item := by
  intro above inItems follow
  obtain ⟨start, after, behind⟩ := chained.behind alone (chained.mem member (by simp)) inItems follow
  obtain ⟨each, apart⟩ := List.nodup_flatten.mp (chained.covers.nodup_iff.mpr distinct)
  -- a member of two chains makes them one, and in one chain it stands once
  have same : start ++ item :: above :: after = before ++ [item] := by
    by_contra differ
    have symmetric : Std.Symm (@List.Disjoint α) := ⟨fun _ _ disjoint _ left right => disjoint right left⟩
    have disjoint := apart.forall behind member differ
    exact disjoint (by simp : item ∈ _) (by simp)
  have last : item ∈ above :: after := by
    have ends := congrArg List.getLast? same
    rw [List.getLast?_append_cons, List.getLast?_cons_cons, List.getLast?_concat] at ends
    exact List.mem_of_getLast? ends
  have once := (List.nodup_append.mp (each _ behind)).2.1
  exact (List.nodup_cons.mp once).1 last

/-- What nothing follows. -/
theorem Chained.tops (distinct : items.Nodup)
    (alone : ∀ one ∈ items, ∀ two ∈ items, ∀ above, follows one above → follows two above → one = two)
    {isTop : α → Bool} (decides : ∀ item, isTop item = true ↔ Unfollowed follows items item) :
    (items.filter isTop).Perm (chains.filterMap List.getLast?) := by
  have lasts {chain : List α} (member : chain ∈ chains) : chain.filter isTop = chain.getLast?.toList := by
    obtain rfl | ⟨before, last, rfl⟩ := List.eq_nil_or_concat chain
    · rfl
    · rw [List.concat_eq_append] at member ⊢
      have inner : before.filter isTop = [] := by
        refine List.filter_eq_nil_iff.mpr fun item inside top => ?_
        obtain ⟨start, after, rfl⟩ := List.append_of_mem inside
        rw [List.append_assoc, List.cons_append] at member
        cases rest : after ++ [last] with
        | nil => simp at rest
        | cons next after =>
            rw [rest] at member
            exact chained.not_top member ((decides item).mp top)
      have outer : isTop last = true := (decides last).mpr (chained.top_last distinct alone member)
      rw [List.filter_append, inner, List.nil_append, List.filter_singleton, outer, List.getLast?_concat]
      rfl
  have split : chains.flatten.filter isTop = chains.filterMap List.getLast? := by
    rw [List.filter_flatten, List.map_congr_left fun chain member => lasts member, ← List.flatMap_def]
    exact (List.filterMap_eq_flatMap_toList _ _).symm
  exact (chained.covers.filter isTop).symm.trans (List.Perm.of_eq split)

end ConstellationNq.Library.Chains
