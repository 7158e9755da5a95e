import Mathlib.Data.List.Basic
import Mathlib.Data.Nat.Digits.Defs

/-!
# JSON text

A document as it is written: numbers keep the parts of their literal and objects the
order of their members.
-/

set_option autoImplicit false

namespace ConstellationNq.Library.JsonDocument

/-- The parts of a number. No fraction and no exponent make it an integer; the sign of
an exponent is `true` when it is negative. -/
structure Literal where
  negative : Bool
  whole : Nat
  fraction : List (Fin 10) := []
  exponent : Option (Bool × Nat) := none
deriving DecidableEq

inductive Document where
  | null
  | bool (value : Bool)
  | number (literal : Literal)
  | string (text : String)
  | array (items : List Document)
  | object (members : List (String × Document))

/-! ## Hexadecimal digits -/

def hexCharacter (digit : Nat) : Char :=
  if digit < 10 then Char.ofNat (48 + digit) else Char.ofNat (87 + digit)

def hexOf (character : Char) : Option Nat :=
  if '0' ≤ character ∧ character ≤ '9' then some (character.toNat - 48)
  else if 'a' ≤ character ∧ character ≤ 'f' then some (character.toNat - 87)
  else if 'A' ≤ character ∧ character ≤ 'F' then some (character.toNat - 55)
  else none

theorem hexOf_hexCharacter : ∀ digit < 16, hexOf (hexCharacter digit) = some digit := by
  decide

/-! ## Number literals -/

def digitOf (character : Char) : Option (Fin 10) :=
  if bounds : 48 ≤ character.toNat ∧ character.toNat < 58 then some ⟨character.toNat - 48, by omega⟩ else none

def readDigits : List Char → List (Fin 10) × List Char
  | [] => ([], [])
  | character :: rest =>
      match digitOf character with
      | none => ([], character :: rest)
      | some digit => (digit :: (readDigits rest).1, (readDigits rest).2)

def numberOf (digits : List (Fin 10)) : Nat := Nat.ofDigits 10 (digits.reverse.map Fin.val)

/-- A zero is not followed by a digit. -/
def readWhole (text : List Char) : Option (Nat × List Char) :=
  match readDigits text with
  | ([], _) => none
  | (first :: more, rest) => if first = 0 ∧ more ≠ [] then none else some (numberOf (first :: more), rest)

def readFraction : List Char → Option (List (Fin 10) × List Char)
  | '.' :: text =>
      match readDigits text with
      | ([], _) => none
      | digits => some digits
  | text => some ([], text)

def readSign : List Char → Bool × List Char
  | '-' :: text => (true, text)
  | '+' :: text => (false, text)
  | text => (false, text)

def readExponent : List Char → Option (Option (Bool × Nat) × List Char)
  | [] => some (none, [])
  | character :: text =>
      if character = 'e' ∨ character = 'E' then
        match readDigits (readSign text).2 with
        | ([], _) => none
        | (digits, rest) => some (some ((readSign text).1, numberOf digits), rest)
      else some (none, character :: text)

def readMinus : List Char → Bool × List Char
  | '-' :: text => (true, text)
  | text => (false, text)

def readLiteral (text : List Char) : Option (Literal × List Char) := do
  let (whole, rest) ← readWhole (readMinus text).2
  let (fraction, rest) ← readFraction rest
  let (exponent, rest) ← readExponent rest
  return ({ negative := (readMinus text).1, whole := whole, fraction := fraction, exponent := exponent }, rest)

end ConstellationNq.Library.JsonDocument
