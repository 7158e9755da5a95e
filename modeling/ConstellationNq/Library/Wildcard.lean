import Mathlib.Data.List.Forall2

/-!
# Wildcard patterns

A pattern matches a text that splits into one piece for each of its symbols: the star
takes any piece, every other symbol the piece made of itself. The laws below are those of
a matcher that reads the pattern from the left and knows its answers for all prefixes of
the text.
-/

set_option autoImplicit false

namespace ConstellationNq.Library.Wildcard

universe u

variable {α : Type u} (star : α)

def TakesPiece (symbol : α) (piece : List α) : Prop := symbol = star ∨ piece = [symbol]

def Matches (pattern text : List α) : Prop :=
  ∃ pieces : List (List α), pieces.flatten = text ∧ List.Forall₂ (TakesPiece star) pattern pieces

variable {star} {pattern text : List α}

theorem matches_nil : Matches star [] text ↔ text = [] := by
  constructor
  · rintro ⟨pieces, rfl, taken⟩
    cases taken
    rfl
  · rintro rfl
    exact ⟨[], rfl, .nil⟩

/-- The last symbol takes an end of the text. -/
theorem matches_concat {symbol : α} :
    Matches star (pattern ++ [symbol]) text ↔
      ∃ front piece, text = front ++ piece ∧ Matches star pattern front ∧ TakesPiece star symbol piece := by
  constructor
  · rintro ⟨pieces, rfl, taken⟩
    rw [← List.forall₂_reverse_iff, List.reverse_concat, List.forall₂_cons_left_iff] at taken
    obtain ⟨piece, reversed, takes, fronts, split⟩ := taken
    obtain rfl : pieces = reversed.reverse ++ [piece] := List.reverse_eq_cons_iff.mp split
    refine ⟨reversed.reverse.flatten, piece, by simp, ⟨reversed.reverse, rfl, ?_⟩, takes⟩
    rwa [← List.forall₂_reverse_iff, List.reverse_reverse]
  · rintro ⟨front, piece, rfl, ⟨pieces, rfl, taken⟩, takes⟩
    exact ⟨pieces ++ [piece], by simp, List.rel_append taken (.cons takes .nil)⟩

theorem matches_concat_star :
    Matches star (pattern ++ [star]) text ↔ ∃ front piece, text = front ++ piece ∧ Matches star pattern front := by
  rw [matches_concat]
  simp only [TakesPiece, true_or, and_true]

theorem matches_concat_star_nil : Matches star (pattern ++ [star]) [] ↔ Matches star pattern [] := by
  rw [matches_concat_star]
  constructor
  · rintro ⟨front, piece, split, matched⟩
    obtain ⟨rfl, -⟩ := List.append_eq_nil_iff.mp split.symm
    exact matched
  · exact fun matched => ⟨[], [], rfl, matched⟩

/-- A star at the end either takes nothing more or takes the last symbol too. -/
theorem matches_concat_star_concat {last : α} :
    Matches star (pattern ++ [star]) (text ++ [last]) ↔
      Matches star pattern (text ++ [last]) ∨ Matches star (pattern ++ [star]) text := by
  rw [matches_concat_star, matches_concat_star]
  constructor
  · rintro ⟨front, piece, split, matched⟩
    rcases List.eq_nil_or_concat piece with rfl | ⟨piece, symbol, rfl⟩
    · rw [List.append_nil] at split
      exact .inl (split ▸ matched)
    · rw [List.concat_eq_append, ← List.append_assoc] at split
      obtain ⟨rfl, -⟩ := List.append_inj' split rfl
      exact .inr ⟨front, piece, rfl, matched⟩
  · rintro (matched | ⟨front, piece, rfl, matched⟩)
    · exact ⟨text ++ [last], [], (List.append_nil _).symm, matched⟩
    · exact ⟨front, piece ++ [last], List.append_assoc .., matched⟩

theorem matches_concat_symbol {symbol : α} (plain : symbol ≠ star) :
    Matches star (pattern ++ [symbol]) text ↔ ∃ front, text = front ++ [symbol] ∧ Matches star pattern front := by
  rw [matches_concat]
  constructor
  · rintro ⟨front, piece, rfl, matched, isStar | rfl⟩
    · exact absurd isStar plain
    · exact ⟨front, rfl, matched⟩
  · rintro ⟨front, rfl, matched⟩
    exact ⟨front, [symbol], rfl, matched, .inr rfl⟩

end ConstellationNq.Library.Wildcard
