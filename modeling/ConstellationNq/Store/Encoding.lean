import ConstellationNq.Library.BigEndian
import ConstellationNq.Library.Delimiting
import ConstellationNq.Library.Text

/-!
# Numbers and accumulators

The bytes of a number, the additive accumulator over the row digests of a table,
and its text form in a validation watermark.
-/

set_option autoImplicit false

namespace ConstellationNq.Store

open Library.BigEndian Library.Delimiting Library.Text

inductive StoreError where
  | integrity (message : String)
  | invariant (message : String)
  | replayConflict (message : String)
  | canonicalJson (message : String)
  | historyIdentityUnavailable (intakeId : String)
  | historicalEvidenceExpired (intakeId : String)
  | sqlite (message : String)
  | panicked
deriving DecidableEq

abbrev Bytes32 := Bytes 32

abbrev Sha256 := List UInt8 → Bytes32

def bigEndian64 (value : Int) : List UInt8 :=
  (List.range 8).map fun position =>
    UInt8.ofNat ((value % 2 ^ 64).toNat / 256 ^ (7 - position) % 256)

def accumulate (accumulator element : Bytes32) : Bytes32 := accumulator.add element

def deduct (accumulator element : Bytes32) : Bytes32 := accumulator.sub element

def hexDigit (digit : Nat) : Char :=
  Char.ofNat (if digit < 10 then 48 + digit else 87 + digit)

def hex (bytes : List UInt8) : String :=
  String.ofList (bytes.flatMap fun byte => [hexDigit (byte.toNat / 16), hexDigit (byte.toNat % 16)])

/-- A hexadecimal digit in either case. -/
def digitValue (byte : UInt8) : Option Nat :=
  let code := byte.toNat
  if 48 ≤ code ∧ code ≤ 57 then some (code - 48)
  else if 97 ≤ code ∧ code ≤ 102 then some (code - 87)
  else if 65 ≤ code ∧ code ≤ 70 then some (code - 55)
  else none

/-- `u8::from_str_radix` at radix 16 on two bytes; a leading plus is skipped. -/
def parseByte (high low : UInt8) : Option UInt8 :=
  if high.toNat = 43 then (digitValue low).map UInt8.ofNat
  else do
    let upper ← digitValue high
    let lower ← digitValue low
    pure (UInt8.ofNat (upper * 16 + lower))

def isContinuation (byte : UInt8) : Bool :=
  128 ≤ byte.toNat && byte.toNat < 192

/-- Cuts the text two bytes at a time; a cut inside a character panics. -/
def parsePairs (invalid : StoreError) : List UInt8 → Except StoreError (List UInt8)
  | high :: low :: rest =>
      if isContinuation high || (match rest with | [] => false | next :: _ => isContinuation next) then .error .panicked
      else match parseByte high low with
        | none => .error invalid
        | some byte => do
            let bytes ← parsePairs invalid rest
            pure (byte :: bytes)
  | _ => .ok []

def parseAccumulator (table value : String) : Except StoreError Bytes32 :=
  let invalid := StoreError.integrity
    ("validation watermark accumulator for history table " ++ table ++ " is not 64 hex digits")
  if (utf8Bytes value).length ≠ 64 then .error invalid
  else do
    let bytes ← parsePairs invalid (utf8Bytes value)
    if length_eq : bytes.length = 32 then pure ⟨bytes, length_eq⟩ else .error invalid

/-! ## Numbers and texts -/

def IsInt64 (value : Int) : Prop := -2 ^ 63 ≤ value ∧ value < 2 ^ 63

theorem length_bigEndian64 (value : Int) : (bigEndian64 value).length = 8 := by
  simp [bigEndian64]

theorem bigEndian64_eq_iff {left right : Int} :
    bigEndian64 left = bigEndian64 right ↔ left % 2 ^ 64 = right % 2 ^ 64 := by
  constructor
  · intro same
    have digits (position : Nat) (inside : position < 8) : (left % 2 ^ 64).toNat / 256 ^ position % 256 =
        (right % 2 ^ 64).toNat / 256 ^ position % 256 := by
      have byte := List.map_inj_left.mp same (7 - position) (List.mem_range.mpr (by omega))
      have number := congrArg UInt8.toNat byte
      rw [UInt8.toNat_ofNat', UInt8.toNat_ofNat', show 7 - (7 - position) = position by omega] at number
      omega
    have low := mod_pow_eq_of_digits 8 digits
    omega
  · intro same
    rw [bigEndian64, bigEndian64, same]

theorem bigEndian64_injective {left right : Int} (leftTyped : IsInt64 left) (rightTyped : IsInt64 right)
    (same : bigEndian64 left = bigEndian64 right) : left = right := by
  have modulo := bigEndian64_eq_iff.mp same
  obtain ⟨leftLow, leftHigh⟩ := leftTyped
  obtain ⟨rightLow, rightHigh⟩ := rightTyped
  omega

theorem delimited_integer : Delimited bigEndian64 IsInt64 :=
  delimited_of_length 8 (fun value _ => length_bigEndian64 value)
    fun _ _ leftTyped rightTyped => bigEndian64_injective leftTyped rightTyped

theorem delimited_size : Delimited (fun size : Nat => bigEndian64 size) fun size => size < 2 ^ 63 := by
  intro left right leftFits rightFits after others same
  have typed (size : Nat) (fits : size < 2 ^ 63) : IsInt64 size := by
    constructor <;> omega
  obtain ⟨sizes, rest⟩ := delimited_integer (typed left leftFits) (typed right rightFits) same
  exact ⟨Int.ofNat.inj sizes, rest⟩

/-! ## Hexadecimal text -/

def digitCode (digit : Nat) : UInt8 :=
  UInt8.ofNat (if digit < 10 then 48 + digit else 87 + digit)

private theorem utf8EncodeChar_hexDigit :
    ∀ digit < 16, String.utf8EncodeChar (hexDigit digit) = [digitCode digit] := by
  decide

theorem parseByte_digitCode :
    ∀ high < 16, ∀ low < 16, parseByte (digitCode high) (digitCode low) = some (UInt8.ofNat (high * 16 + low)) := by
  decide

private theorem isContinuation_digitCode : ∀ digit < 16, isContinuation (digitCode digit) = false := by
  decide

theorem digits_lt (byte : UInt8) : byte.toNat / 16 < 16 ∧ byte.toNat % 16 < 16 := by
  have := byte.toNat_lt
  omega

theorem utf8Bytes_hex (bytes : List UInt8) :
    utf8Bytes (hex bytes) = bytes.flatMap fun byte => [digitCode (byte.toNat / 16), digitCode (byte.toNat % 16)] := by
  rw [utf8Bytes, encodeText, hex, String.toList_ofList, List.flatMap_assoc]
  congr 1
  funext byte
  simp [utf8EncodeChar_hexDigit _ (digits_lt byte).1, utf8EncodeChar_hexDigit _ (digits_lt byte).2]

private theorem parsePairs_hex (invalid : StoreError) (bytes : List UInt8) :
    parsePairs invalid (utf8Bytes (hex bytes)) = .ok bytes := by
  rw [utf8Bytes_hex]
  induction bytes with
  | nil => rfl
  | cons byte bytes ih =>
      have boundary : (match bytes.flatMap fun byte => [digitCode (byte.toNat / 16), digitCode (byte.toNat % 16)] with
          | [] => false
          | next :: _ => isContinuation next) = false := by
        cases bytes with
        | nil => rfl
        | cons next bytes => exact isContinuation_digitCode _ (digits_lt next).1
      have digits : UInt8.ofNat (byte.toNat / 16 * 16 + byte.toNat % 16) = byte := by
        rw [Nat.div_add_mod', UInt8.ofNat_toNat]
      simp only [List.flatMap_cons, List.cons_append, List.nil_append, parsePairs,
        isContinuation_digitCode _ (digits_lt byte).1, boundary, Bool.or_self, Bool.false_eq_true, if_false,
        parseByte_digitCode _ (digits_lt byte).1 _ (digits_lt byte).2, digits, ih, bind, Except.bind, pure, Except.pure]

theorem parseAccumulator_hex (table : String) (accumulator : Bytes32) :
    parseAccumulator table (hex accumulator.bytes) = .ok accumulator := by
  have length : (utf8Bytes (hex accumulator.bytes)).length = 64 := by
    rw [utf8Bytes_hex, List.length_flatMap]
    simp [accumulator.length_eq]
  simp [parseAccumulator, length, parsePairs_hex, accumulator.length_eq, bind, Except.bind, pure, Except.pure]

theorem hex_injective {left right : Bytes32} (same : hex left.bytes = hex right.bytes) : left = right := by
  have parsed := parseAccumulator_hex "" left
  rw [same, parseAccumulator_hex] at parsed
  exact (Except.ok.inj parsed).symm

end ConstellationNq.Store
