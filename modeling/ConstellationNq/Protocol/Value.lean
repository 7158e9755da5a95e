import ConstellationNq.Library.Loop
import ConstellationNq.Library.Text
import ConstellationNq.Protocol.Canonical

/-!
# Equality of JSON values

`serde_json` compares integers with integers and doubles with doubles, so an integer
is never equal to a double, while the two zeros among the doubles are.
-/

set_option autoImplicit false

namespace ConstellationNq.Protocol

open Library.Loop Library.Text

def isZeroDouble (bits : UInt64) : Bool := bits.toNat % 2 ^ 63 = 0

mutual

/-- `Value == Value`; a document holds no double that differs from itself. -/
def Json.same : Json → Json → Bool
  | .null, .null => true
  | .bool left, .bool right => left == right
  | .integer left, .integer right => left == right
  | .float left, .float right => left == right || (isZeroDouble left && isZeroDouble right)
  | .string left, .string right => left == right
  | .array left, .array right => Json.sameItems left right
  | .object left, .object right => Json.sameMembers left right
  | _, _ => false

def Json.sameItems : List Json → List Json → Bool
  | [], [] => true
  | left :: leftRest, right :: rightRest => Json.same left right && Json.sameItems leftRest rightRest
  | _, _ => false

def Json.sameMembers : List (String × Json) → List (String × Json) → Bool
  | [], [] => true
  | (leftKey, left) :: leftRest, (rightKey, right) :: rightRest =>
      leftKey == rightKey && (Json.same left right && Json.sameMembers leftRest rightRest)
  | _, _ => false

end

mutual

theorem Json.same_refl : ∀ value : Json, value.same value = true
  | .null => by simp [Json.same]
  | .bool _ => by simp [Json.same]
  | .integer _ => by simp [Json.same]
  | .float _ => by simp [Json.same]
  | .string _ => by simp [Json.same]
  | .array items => by
      rw [Json.same]
      exact Json.sameItems_refl items
  | .object members => by
      rw [Json.same]
      exact Json.sameMembers_refl members

theorem Json.sameItems_refl : ∀ items : List Json, Json.sameItems items items = true
  | [] => by simp [Json.sameItems]
  | item :: items => by
      rw [Json.sameItems, Json.same_refl item, Json.sameItems_refl items]
      rfl

theorem Json.sameMembers_refl : ∀ members : List (String × Json), Json.sameMembers members members = true
  | [] => by simp [Json.sameMembers]
  | (key, value) :: members => by
      rw [Json.sameMembers, Json.same_refl value, Json.sameMembers_refl members]
      simp

end

theorem validateIJsonItems_eq_ok {items : List Json} :
    validateIJsonItems items = .ok () ↔ ∀ item ∈ items, validateIJsonNumbers item = .ok () := by
  induction items with
  | nil => simp [validateIJsonItems]
  | cons item items ih =>
      rw [validateIJsonItems, check_bind_eq_ok, ih]
      simp

theorem validateIJsonMembers_eq_ok {members : List (String × Json)} :
    validateIJsonMembers members = .ok () ↔ ∀ member ∈ members, validateIJsonNumbers member.2 = .ok () := by
  induction members with
  | nil => simp [validateIJsonMembers]
  | cons member members ih =>
      rw [validateIJsonMembers, check_bind_eq_ok, ih]
      simp

mutual

/-- Equal values pass the check on their numbers together. -/
theorem validateIJsonNumbers_of_same : ∀ left right : Json, left.same right = true →
    validateIJsonNumbers left = validateIJsonNumbers right
  | .null, right, same => by cases right <;> simp_all [Json.same]
  | .bool _, right, same => by cases right <;> simp_all [Json.same, validateIJsonNumbers]
  | .integer _, right, same => by cases right <;> simp_all [Json.same]
  | .float _, right, same => by cases right <;> simp_all [Json.same, validateIJsonNumbers]
  | .string _, right, same => by cases right <;> simp_all [Json.same]
  | .array items, right, same => by
      cases right with
      | array others =>
          rw [Json.same] at same
          rw [validateIJsonNumbers, validateIJsonNumbers, validateIJsonItems_of_same items others same]
      | _ => simp [Json.same] at same
  | .object members, right, same => by
      cases right with
      | object others =>
          rw [Json.same] at same
          rw [validateIJsonNumbers, validateIJsonNumbers, validateIJsonMembers_of_same members others same]
      | _ => simp [Json.same] at same

theorem validateIJsonItems_of_same : ∀ left right : List Json, Json.sameItems left right = true →
    validateIJsonItems left = validateIJsonItems right
  | [], [], _ => rfl
  | [], _ :: _, same => by simp [Json.sameItems] at same
  | _ :: _, [], same => by simp [Json.sameItems] at same
  | item :: items, other :: others, same => by
      rw [Json.sameItems, Bool.and_eq_true] at same
      rw [validateIJsonItems, validateIJsonItems, validateIJsonNumbers_of_same item other same.1,
        validateIJsonItems_of_same items others same.2]

theorem validateIJsonMembers_of_same : ∀ left right : List (String × Json), Json.sameMembers left right = true →
    validateIJsonMembers left = validateIJsonMembers right
  | [], [], _ => rfl
  | [], _ :: _, same => by simp [Json.sameMembers] at same
  | _ :: _, [], same => by simp [Json.sameMembers] at same
  | (_, value) :: members, (_, other) :: others, same => by
      rw [Json.sameMembers, Bool.and_eq_true, Bool.and_eq_true] at same
      rw [validateIJsonMembers, validateIJsonMembers, validateIJsonNumbers_of_same value other same.2.1,
        validateIJsonMembers_of_same members others same.2.2]

end

/-! ## A renderer for samples -/

-- The stored bytes evaluate faster than the encoding of the characters.
def storedBytes (text : String) : List UInt8 := text.toByteArray.data.toList

def quoted (text : String) : List UInt8 :=
  34 :: ((storedBytes text).flatMap (fun byte => if byte = 34 ∨ byte = 92 then [92, byte] else [byte]) ++ [34])

mutual

/-- The bytes of a value, the members of an object in their order. -/
def Json.write : Json → List UInt8
  | .null => storedBytes "null"
  | .bool value => storedBytes (toString value)
  | .integer value => storedBytes (toString value)
  | .float bits => storedBytes (if isZeroDouble bits then "0.0" else toString bits)
  | .string text => quoted text
  | .array items => 91 :: ([44].intercalate (Json.writeItems items) ++ [93])
  | .object members => 123 :: ([44].intercalate (Json.writeMembers members) ++ [125])

def Json.writeItems : List Json → List (List UInt8)
  | [] => []
  | item :: items => item.write :: Json.writeItems items

def Json.writeMembers : List (String × Json) → List (List UInt8)
  | [] => []
  | (key, value) :: members => (quoted key ++ 58 :: value.write) :: Json.writeMembers members

end

mutual

theorem Json.write_of_same : ∀ left right : Json, left.same right = true → left.write = right.write
  | .null, right, same => by cases right <;> simp_all [Json.same]
  | .bool _, right, same => by cases right <;> simp_all [Json.same]
  | .integer _, right, same => by cases right <;> simp_all [Json.same]
  | .float bits, right, same => by
      cases right with
      | float others =>
          simp only [Json.same, Bool.or_eq_true, Bool.and_eq_true, beq_iff_eq] at same
          rcases same with rfl | ⟨left, right⟩
          · rfl
          · rw [Json.write, Json.write, if_pos left, if_pos right]
      | _ => simp [Json.same] at same
  | .string _, right, same => by cases right <;> simp_all [Json.same]
  | .array items, right, same => by
      cases right with
      | array others =>
          rw [Json.same] at same
          rw [Json.write, Json.write, Json.writeItems_of_same items others same]
      | _ => simp [Json.same] at same
  | .object members, right, same => by
      cases right with
      | object others =>
          rw [Json.same] at same
          rw [Json.write, Json.write, Json.writeMembers_of_same members others same]
      | _ => simp [Json.same] at same

theorem Json.writeItems_of_same : ∀ left right : List Json, Json.sameItems left right = true →
    Json.writeItems left = Json.writeItems right
  | [], [], _ => rfl
  | [], _ :: _, same => by simp [Json.sameItems] at same
  | _ :: _, [], same => by simp [Json.sameItems] at same
  | item :: items, other :: others, same => by
      rw [Json.sameItems, Bool.and_eq_true] at same
      rw [Json.writeItems, Json.writeItems, Json.write_of_same item other same.1,
        Json.writeItems_of_same items others same.2]

theorem Json.writeMembers_of_same : ∀ left right : List (String × Json), Json.sameMembers left right = true →
    Json.writeMembers left = Json.writeMembers right
  | [], [], _ => rfl
  | [], _ :: _, same => by simp [Json.sameMembers] at same
  | _ :: _, [], same => by simp [Json.sameMembers] at same
  | (key, value) :: members, (_, other) :: others, same => by
      rw [Json.sameMembers, Bool.and_eq_true, Bool.and_eq_true, beq_iff_eq] at same
      rw [Json.writeMembers, Json.writeMembers, Json.write_of_same value other same.2.1,
        Json.writeMembers_of_same members others same.2.2, same.1]

end

/-- The text of a value whose texts are of ASCII. -/
def Json.text (value : Json) : String := String.ofList (value.write.map fun byte => Char.ofNat byte.toNat)

end ConstellationNq.Protocol
