import Mathlib.Data.List.Basic
import Mathlib.Algebra.Order.Ring.Int

/-!
# Bounded loops

A `while` loop is its turn function together with a bound on the number of
turns. The rules below carry an invariant through every turn and, with a
measure that each turn lowers, also show that the loop left of its own accord
and not because the bound was reached.
-/

set_option autoImplicit false

namespace ConstellationNq.Library.Loop

universe u v

section Pure

variable {σ : Type u}

/-- Take turns until `turn` declines or the fuel is spent. -/
def iterate (turn : σ → Option σ) : Nat → σ → σ
  | 0, state => state
  | fuel + 1, state =>
      match turn state with
      | none => state
      | some next => iterate turn fuel next

theorem iterate_preserves {turn : σ → Option σ} (invariant : σ → Prop)
    (preserved : ∀ state next, invariant state → turn state = some next → invariant next)
    (fuel : Nat) {state : σ} (holds : invariant state) :
    invariant (iterate turn fuel state) := by
  induction fuel generalizing state with
  | zero => exact holds
  | succ fuel ih =>
      cases taken : turn state with
      | none => simpa [iterate, taken] using holds
      | some next => simpa [iterate, taken] using ih (preserved state next holds taken)

/-- A measure that every turn lowers makes the loop leave by itself. -/
theorem iterate_finished {turn : σ → Option σ} (invariant : σ → Prop) (measure : σ → Nat)
    (preserved : ∀ state next, invariant state → turn state = some next →
      invariant next ∧ measure next < measure state)
    {fuel : Nat} {state : σ} (holds : invariant state) (enough : measure state ≤ fuel) :
    turn (iterate turn fuel state) = none := by
  induction fuel generalizing state with
  | zero =>
      cases taken : turn state with
      | none => simpa [iterate] using taken
      | some next =>
          have lower := (preserved state next holds taken).2
          omega
  | succ fuel ih =>
      cases taken : turn state with
      | none => simp [iterate, taken]
      | some next =>
          obtain ⟨nextHolds, lower⟩ := preserved state next holds taken
          simpa [iterate, taken] using ih nextHolds (by omega)

end Pure

section Fallible

variable {σ : Type u} {ε : Type v}

/-- The loop whose turns may abort it. -/
def iterateExcept (turn : σ → Except ε (Option σ)) : Nat → σ → Except ε σ
  | 0, state => .ok state
  | fuel + 1, state =>
      match turn state with
      | .error abort => .error abort
      | .ok none => .ok state
      | .ok (some next) => iterateExcept turn fuel next

/-- Two fallible steps succeed when the first does and the second does on its value. -/
theorem bind_eq_ok {α β : Type u} {first : Except ε α} {rest : α → Except ε β} {result : β} :
    (first >>= rest) = .ok result ↔ ∃ value, first = .ok value ∧ rest value = .ok result := by
  cases first <;> simp [bind, Except.bind]

theorem mapError_eq_ok {δ : Type*} {α : Type u} {first : Except ε α} {convert : ε → δ} {result : α} :
    first.mapError convert = .ok result ↔ first = .ok result := by
  cases first with
  | error message => simp [Except.mapError]
  | ok value => simp [Except.mapError]

/-- What follows a computation may be replaced by what returns at least as much. -/
theorem bind_ok_mono {α β : Type u} {first : Except ε α} {rest wider : α → Except ε β} {result : β}
    (returns : ∀ value, rest value = .ok result → wider value = .ok result)
    (computed : (first >>= rest) = .ok result) : (first >>= wider) = .ok result := by
  obtain ⟨value, firstEq, restEq⟩ := bind_eq_ok.mp computed
  exact bind_eq_ok.mpr ⟨value, firstEq, returns value restEq⟩

/-- A check that returns nothing, and what runs after it. -/
theorem check_bind_eq_ok {β : Type u} {check : Except ε PUnit} {rest : Except ε β} {result : β} :
    (check >>= fun _ => rest) = .ok result ↔ check = .ok ⟨⟩ ∧ rest = .ok result := by
  rw [bind_eq_ok]
  constructor
  · rintro ⟨⟨⟩, passed, rest⟩
    exact ⟨passed, rest⟩
  · rintro ⟨passed, rest⟩
    exact ⟨⟨⟩, passed, rest⟩

def ensure {ε : Type u} (condition : Prop) [Decidable condition] (error : ε) : Except ε PUnit :=
  if condition then .ok ⟨⟩ else .error error

theorem ensure_eq_ok {ε : Type u} {condition : Prop} [Decidable condition] {error : ε} {passed : PUnit} :
    ensure condition error = .ok passed ↔ condition := by
  unfold ensure
  split <;> simp [*]

theorem ensure_pure_eq_ok {ε β : Type u} {condition : Prop} [Decidable condition] {error : ε} {value result : β} :
    (do ensure condition error; return value : Except ε β) = .ok result ↔ condition ∧ value = result := by
  rw [check_bind_eq_ok, ensure_eq_ok]
  simp only [pure, Except.pure, Except.ok.injEq]

/-- A loop whose turns never abort under the invariant, and always lower the
measure, ends without aborting in a state in which the loop has left. -/
theorem iterateExcept_finished {turn : σ → Except ε (Option σ)} (invariant : σ → Prop)
    (measure : σ → Nat)
    (preserved : ∀ state, invariant state → ∃ outcome, turn state = .ok outcome ∧
      ∀ next, outcome = some next → invariant next ∧ measure next < measure state)
    {fuel : Nat} {state : σ} (holds : invariant state) (enough : measure state ≤ fuel) :
    ∃ final, iterateExcept turn fuel state = .ok final ∧ invariant final ∧
      turn final = .ok none := by
  induction fuel generalizing state with
  | zero =>
      obtain ⟨outcome, taken, continues⟩ := preserved state holds
      cases outcome with
      | none => exact ⟨state, rfl, holds, taken⟩
      | some next =>
          have lower := (continues next rfl).2
          omega
  | succ fuel ih =>
      obtain ⟨outcome, taken, continues⟩ := preserved state holds
      cases outcome with
      | none => exact ⟨state, by simp [iterateExcept, taken], holds, taken⟩
      | some next =>
          obtain ⟨nextHolds, lower⟩ := continues next rfl
          obtain ⟨final, ran, finalHolds, left⟩ := ih nextHolds (by omega)
          exact ⟨final, by simpa [iterateExcept, taken] using ran, finalHolds, left⟩

/-- A `for` loop with an accumulator none of whose rounds fails. -/
theorem foldlM_total {α : Type*} {round : σ → α → Except ε σ} (invariant : σ → Prop) {items : List α}
    (preserved : ∀ item ∈ items, ∀ state, invariant state →
      ∃ next, round state item = .ok next ∧ invariant next)
    {state : σ} (holds : invariant state) :
    ∃ final, items.foldlM round state = .ok final ∧ invariant final := by
  induction items generalizing state with
  | nil => exact ⟨state, rfl, holds⟩
  | cons item items ih =>
      obtain ⟨next, executed, nextHolds⟩ := preserved item List.mem_cons_self state holds
      obtain ⟨final, finished, finalHolds⟩ :=
        ih (fun later member => preserved later (List.mem_cons_of_mem _ member)) nextHolds
      refine ⟨final, ?_, finalHolds⟩
      simpa only [List.foldlM_cons, executed, bind, Except.bind] using finished

/-- A `for` loop that only checks passes when every round passes. -/
theorem forM_eq_ok_iff {α : Type*} {check : α → Except ε PUnit} {items : List α} :
    items.forM check = .ok ⟨⟩ ↔ ∀ item ∈ items, check item = .ok ⟨⟩ := by
  induction items with
  | nil => simp [List.forM, pure, Except.pure]
  | cons item items ih =>
      rw [List.forall_mem_cons, ← ih]
      cases checked : check item with
      | error abort => simp [List.forM, checked, bind, Except.bind]
      | ok result => simp [List.forM, checked, bind, Except.bind]

/-- A loop that collects keys and refuses the ones it has. -/
theorem foldlM_insert_eq_ok {α κ : Type*} {round : List κ → α → Except ε (List κ)} {key : α → κ}
    {passes : α → Prop}
    (turn : ∀ seen item next, round seen item = .ok next ↔
      passes item ∧ key item ∉ seen ∧ next = seen ++ [key item])
    {items : List α} {seen final : List κ} (distinct : seen.Nodup) :
    items.foldlM round seen = .ok final ↔
      (∀ item ∈ items, passes item) ∧ (seen ++ items.map key).Nodup ∧ final = seen ++ items.map key := by
  induction items generalizing seen with
  | nil =>
      simp only [List.foldlM_nil, pure, Except.pure, Except.ok.injEq, List.not_mem_nil, false_implies,
        implies_true, true_and, List.map_nil, List.append_nil, distinct, eq_comm]
  | cons item items ih =>
      rw [List.foldlM_cons, List.forall_mem_cons, List.map_cons]
      constructor
      · intro ran
        obtain ⟨next, taken, rest⟩ := bind_eq_ok.mp ran
        obtain ⟨passed, fresh, rfl⟩ := (turn _ _ _).mp taken
        have extended : (seen ++ [key item]).Nodup := by
          refine List.nodup_append.mpr ⟨distinct, List.pairwise_singleton _ _, fun old member new single same => ?_⟩
          exact fresh (List.mem_singleton.mp single ▸ same ▸ member)
        obtain ⟨others, unique, result⟩ := (ih extended).mp rest
        rw [List.append_assoc] at unique result
        exact ⟨⟨passed, others⟩, unique, result⟩
      · rintro ⟨⟨passed, others⟩, unique, result⟩
        have split : seen ++ key item :: items.map key = seen ++ [key item] ++ items.map key := by simp
        rw [split] at unique result
        have extended := (List.nodup_append.mp unique).1
        have fresh : key item ∉ seen := fun member =>
          (List.nodup_append.mp extended).2.2 _ member _ (List.mem_singleton_self _) rfl
        exact bind_eq_ok.mpr ⟨_, (turn _ _ _).mpr ⟨passed, fresh, rfl⟩, (ih extended).mpr ⟨others, unique, result⟩⟩

/-- Every round of a loop that ends without failing passed from some state. -/
theorem foldlM_round {α : Type*} {round : σ → α → Except ε σ} {items : List α} {state final : σ}
    (ran : items.foldlM round state = .ok final) {item : α} (member : item ∈ items) :
    ∃ before after, round before item = .ok after := by
  induction items generalizing state with
  | nil => cases member
  | cons first items ih =>
      rw [List.foldlM_cons] at ran
      obtain ⟨next, taken, rest⟩ := bind_eq_ok.mp ran
      cases member with
      | head => exact ⟨state, next, taken⟩
      | tail _ later => exact ih rest later

theorem mem_of_mapM_eq_ok {α β : Type u} {step : α → Except ε β} {items : List α} {results : List β}
    (ran : items.mapM step = .ok results) {result : β} :
    result ∈ results ↔ ∃ item ∈ items, step item = .ok result := by
  induction items generalizing results with
  | nil =>
      obtain rfl : [] = results := by simpa [pure, Except.pure] using ran
      simp
  | cons item items ih =>
      rw [List.mapM_cons] at ran
      obtain ⟨first, taken, rest⟩ := bind_eq_ok.mp ran
      obtain ⟨others, later, done⟩ := bind_eq_ok.mp rest
      obtain rfl := Except.ok.inj done
      simp [ih later, taken, eq_comm]

theorem mapM_total {α β : Type u} {step : α → Except ε β} {items : List α}
    (total : ∀ item ∈ items, ∃ result, step item = .ok result) : ∃ results, items.mapM step = .ok results := by
  induction items with
  | nil => exact ⟨[], rfl⟩
  | cons item items ih =>
      obtain ⟨first, taken⟩ := total item List.mem_cons_self
      obtain ⟨others, later⟩ := ih fun other member => total other (List.mem_cons_of_mem _ member)
      refine ⟨first :: others, ?_⟩
      rw [List.mapM_cons]
      exact bind_eq_ok.mpr ⟨first, taken, bind_eq_ok.mpr ⟨others, later, rfl⟩⟩

end Fallible

section Pending

variable {α β : Type*}

variable (weight : α × β → Nat)

/-- The weight of the entries whose key has not been visited yet. -/
def pendingWeight (visited : α → Bool) (entries : List (α × β)) : Nat :=
  ((entries.filter fun entry => !visited entry.1).map weight).sum

@[simp] theorem pendingWeight_nil (visited : α → Bool) :
    pendingWeight weight visited [] = 0 := rfl

theorem pendingWeight_cons (visited : α → Bool) (entry : α × β) (entries : List (α × β)) :
    pendingWeight weight visited (entry :: entries) =
      (if visited entry.1 then 0 else weight entry) + pendingWeight weight visited entries := by
  cases seen : visited entry.1 <;> simp [pendingWeight, seen]

theorem pendingWeight_mono {before after : α → Bool} (grows : ∀ key, before key = true → after key = true)
    (entries : List (α × β)) :
    pendingWeight weight after entries ≤ pendingWeight weight before entries := by
  induction entries with
  | nil => simp
  | cons entry entries ih =>
      rw [pendingWeight_cons, pendingWeight_cons]
      cases seen : before entry.1 with
      | true => simpa [grows _ seen] using ih
      | false => split <;> simp <;> omega

/-- Visiting the key of an entry pays for that entry. -/
theorem pendingWeight_visit {before after : α → Bool} (grows : ∀ key, before key = true → after key = true)
    {entries : List (α × β)} {entry : α × β} (member : entry ∈ entries) (fresh : before entry.1 = false)
    (visited : after entry.1 = true) :
    pendingWeight weight after entries + weight entry ≤ pendingWeight weight before entries := by
  induction entries with
  | nil => simp at member
  | cons head entries ih =>
      rw [pendingWeight_cons, pendingWeight_cons]
      rcases List.mem_cons.mp member with rfl | later
      · have rest := pendingWeight_mono weight grows entries
        simp only [fresh, visited, if_true, Bool.false_eq_true, if_false]
        omega
      · have rest := ih later
        cases seen : before head.1 with
        | true => simpa [grows _ seen] using rest
        | false => split <;> simp <;> omega

theorem pendingWeight_le_total (visited : α → Bool) (entries : List (α × β)) :
    pendingWeight weight visited entries ≤ (entries.map weight).sum := by
  induction entries with
  | nil => simp
  | cons entry entries ih =>
      rw [pendingWeight_cons, List.map_cons, List.sum_cons]
      split <;> omega

end Pending

end ConstellationNq.Library.Loop
