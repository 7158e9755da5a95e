import Mathlib.Data.List.Basic

/-!
# Delimited encodings

An encoding is delimited when whoever reads it from the start of a longer text
knows where it ends: two texts that start with an encoded value each start with
the same value and go on the same way. Fixed-length fields, fields that carry
their length and lists whose length is known are delimited.
-/

set_option autoImplicit false

namespace ConstellationNq.Library.Delimiting

universe u v

variable {α : Type u} {β : Type v}

/-- Among the valid values an encoded one tells where it ends. -/
def Delimited (encode : α → List β) (valid : α → Prop) : Prop :=
  ∀ ⦃left right : α⦄, valid left → valid right → ∀ ⦃after others : List β⦄,
    encode left ++ after = encode right ++ others → left = right ∧ after = others

variable {encode : α → List β} {valid : α → Prop}

/-- A field of fixed length. -/
theorem delimited_of_length (size : Nat) (fixed : ∀ value, valid value → (encode value).length = size)
    (injective : ∀ left right, valid left → valid right → encode left = encode right → left = right) :
    Delimited encode valid := by
  intro left right leftValid rightValid after others same
  have lengths : (encode left).length = (encode right).length := by
    rw [fixed left leftValid, fixed right rightValid]
  obtain ⟨values, rest⟩ := List.append_inj same lengths
  exact ⟨injective left right leftValid rightValid values, rest⟩

/-- A field behind its length. -/
theorem delimited_of_prefixed {measure : Nat → List β} {bound : Nat}
    (lengths : Delimited measure fun size => size < bound)
    (short : ∀ value, valid value → (encode value).length < bound)
    (injective : ∀ left right, valid left → valid right → encode left = encode right → left = right) :
    Delimited (fun value => measure (encode value).length ++ encode value) valid := by
  intro left right leftValid rightValid after others same
  simp only [List.append_assoc] at same
  obtain ⟨sizes, same⟩ := lengths (short left leftValid) (short right rightValid) same
  obtain ⟨values, rest⟩ := List.append_inj same sizes
  exact ⟨injective left right leftValid rightValid values, rest⟩

/-- Lists of one length. -/
theorem Delimited.flatMap (delimited : Delimited encode valid) {left right : List α}
    (lengths : left.length = right.length) (leftValid : ∀ value ∈ left, valid value)
    (rightValid : ∀ value ∈ right, valid value) {after others : List β}
    (same : left.flatMap encode ++ after = right.flatMap encode ++ others) : left = right ∧ after = others := by
  induction left generalizing right with
  | nil =>
      obtain rfl := List.length_eq_zero_iff.mp lengths.symm
      exact ⟨rfl, same⟩
  | cons first left ih =>
      cases right with
      | nil => cases lengths
      | cons second right =>
          simp only [List.flatMap_cons, List.append_assoc] at same
          obtain ⟨heads, tails⟩ :=
            delimited (leftValid first List.mem_cons_self) (rightValid second List.mem_cons_self) same
          obtain ⟨values, rest⟩ := ih (Nat.succ.inj lengths)
            (fun value member => leftValid value (List.mem_cons_of_mem _ member))
            (fun value member => rightValid value (List.mem_cons_of_mem _ member)) tails
          exact ⟨by rw [heads, values], rest⟩

/-- Lists that end with the text, whatever their length, when no encoding is empty. -/
theorem Delimited.flatMap_injective (delimited : Delimited encode valid)
    (nonempty : ∀ value, valid value → encode value ≠ []) {left right : List α}
    (leftValid : ∀ value ∈ left, valid value) (rightValid : ∀ value ∈ right, valid value)
    (same : left.flatMap encode = right.flatMap encode) : left = right := by
  induction left generalizing right with
  | nil =>
      cases right with
      | nil => rfl
      | cons second right =>
          have empty := List.append_eq_nil_iff.mp same.symm
          exact absurd empty.1 (nonempty second (rightValid second List.mem_cons_self))
  | cons first left ih =>
      cases right with
      | nil =>
          have empty := List.append_eq_nil_iff.mp same
          exact absurd empty.1 (nonempty first (leftValid first List.mem_cons_self))
      | cons second right =>
          obtain ⟨heads, tails⟩ :=
            delimited (leftValid first List.mem_cons_self) (rightValid second List.mem_cons_self) same
          rw [heads, ih (fun value member => leftValid value (List.mem_cons_of_mem _ member))
            (fun value member => rightValid value (List.mem_cons_of_mem _ member)) tails]

/-- Lists behind their length. -/
theorem Delimited.counted {measure : Nat → List β} {bound : Nat}
    (lengths : Delimited measure fun size => size < bound) (delimited : Delimited encode valid) :
    Delimited (fun values : List α => measure values.length ++ values.flatMap encode)
      fun values => values.length < bound ∧ ∀ value ∈ values, valid value := by
  intro left right leftValid rightValid after others same
  simp only [List.append_assoc] at same
  obtain ⟨sizes, same⟩ := lengths leftValid.1 rightValid.1 same
  exact delimited.flatMap sizes leftValid.2 rightValid.2 same

end ConstellationNq.Library.Delimiting
