import ConstellationNq.Library.Loop
import ConstellationNq.Store.Encoding
import Mathlib.Algebra.BigOperators.Group.Multiset.Basic
import Mathlib.Data.Nat.Cast.Basic

/-!
# Accumulators of row digests

`accumulate` and `deduct` work on the bytes of an accumulator from the right, in integers
that are hardly wider than a byte; none of their operations overflows. The text of an
accumulator is read back two bytes at a time. The reader takes upper-case digits and a
leading plus too, and it cuts the text without regard to its characters.
-/

set_option autoImplicit false

namespace ConstellationNq.Store

open Library.Text Library.BigEndian Library.Loop

/-! ## The loops in narrow integers -/

inductive Overflow where
  | unsigned (result : Nat)
  | signed (result : Int)
deriving DecidableEq

def checkedU16 (result : Nat) : Except Overflow Nat :=
  if result < 2 ^ 16 then .ok result else .error (.unsigned result)

def checkedI16 (result : Int) : Except Overflow Int :=
  if -2 ^ 15 ≤ result ∧ result < 2 ^ 15 then .ok result else .error (.signed result)

/-- The rounds of `accumulate` from the last index to that of the first byte given, with
the carry they leave. -/
def accumulateBytes : List UInt8 → List UInt8 → Except Overflow (List UInt8 × Nat)
  | left :: lefts, right :: rights => do
      let (written, carry) ← accumulateBytes lefts rights
      let sum ← checkedU16 (left.toNat + right.toNat)
      let sum ← checkedU16 (sum + carry)
      return (UInt8.ofNat (sum &&& 0xff) :: written, sum >>> 8)
  | _, _ => .ok ([], 0)

def settleDifference (difference : Int) : Except Overflow (UInt8 × Int) :=
  if difference < 0 then do
    let difference ← checkedI16 (difference + 256)
    return (if 0 ≤ difference ∧ difference < 256 then UInt8.ofNat difference.toNat else 0, 1)
  else .ok (if 0 ≤ difference ∧ difference < 256 then UInt8.ofNat difference.toNat else 0, 0)

def deductBytes : List UInt8 → List UInt8 → Except Overflow (List UInt8 × Int)
  | left :: lefts, right :: rights => do
      let (written, borrow) ← deductBytes lefts rights
      let difference ← checkedI16 ((left.toNat : Int) - right.toNat)
      let difference ← checkedI16 (difference - borrow)
      let (byte, borrow) ← settleDifference difference
      return (byte :: written, borrow)
  | _, _ => .ok ([], 0)

theorem checkedU16_eq_ok {result : Nat} (fits : result < 2 ^ 16) : checkedU16 result = .ok result := if_pos fits

theorem checkedI16_eq_ok {result : Int} (low : -2 ^ 15 ≤ result) (high : result < 2 ^ 15) :
    checkedI16 result = .ok result := if_pos ⟨low, high⟩

theorem addCarry_le_one (left right : List UInt8) : (addCarry left right).2 ≤ 1 := by
  induction left generalizing right with
  | nil => simp [addCarry]
  | cons byte left ih =>
      cases right with
      | nil => simp [addCarry]
      | cons other right =>
          have carry := ih right
          have byteLt := byte.toNat_lt
          have otherLt := other.toNat_lt
          simp only [addCarry]
          omega

/-- A round adds at most 255, 255 and 1. -/
theorem accumulateBytes_eq (left right : List UInt8) : accumulateBytes left right = .ok (addCarry left right) := by
  induction left generalizing right with
  | nil => simp [accumulateBytes, addCarry]
  | cons byte left ih =>
      cases right with
      | nil => simp [accumulateBytes, addCarry]
      | cons other right =>
          have carry := addCarry_le_one left right
          have byteLt := byte.toNat_lt
          have otherLt := other.toNat_lt
          rw [accumulateBytes, ih, addCarry]
          refine bind_eq_ok.mpr ⟨_, rfl, ?_⟩
          refine bind_eq_ok.mpr ⟨_, checkedU16_eq_ok (by omega), ?_⟩
          refine bind_eq_ok.mpr ⟨_, checkedU16_eq_ok (by omega), ?_⟩
          have low (sum : Nat) : sum &&& 0xff = sum % 256 := Nat.and_two_pow_sub_one_eq_mod sum 8
          have high (sum : Nat) : sum >>> 8 = sum / 256 := Nat.shiftRight_eq_div_pow sum 8
          rw [low, high]
          rfl

theorem settleDifference_eq {difference : Int} (low : -256 ≤ difference) (high : difference < 256) :
    settleDifference difference =
      .ok (if difference < 0 then (UInt8.ofNat (difference + 256).toNat, 1) else (UInt8.ofNat difference.toNat, 0)) := by
  unfold settleDifference
  split
  · rename_i negative
    refine bind_eq_ok.mpr ⟨_, checkedI16_eq_ok (by omega) (by omega), ?_⟩
    rw [if_pos ⟨by omega, by omega⟩]
    rfl
  · rename_i positive
    rw [if_pos ⟨by omega, high⟩]

/-- A round leaves at least -256 and at most 255, so the byte written is always that of
the difference. -/
theorem deductBytes_eq (left right : List UInt8) : deductBytes left right = .ok (subBorrow left right) := by
  induction left generalizing right with
  | nil => simp [deductBytes, subBorrow]
  | cons byte left ih =>
      cases right with
      | nil => simp [deductBytes, subBorrow]
      | cons other right =>
          have bit := subBorrow_bit left right
          have byteLt := byte.toNat_lt
          have otherLt := other.toNat_lt
          rw [deductBytes, ih, subBorrow]
          refine bind_eq_ok.mpr ⟨_, rfl, ?_⟩
          refine bind_eq_ok.mpr ⟨_, checkedI16_eq_ok (by omega) (by omega), ?_⟩
          refine bind_eq_ok.mpr ⟨_, checkedI16_eq_ok (by omega) (by omega), ?_⟩
          refine bind_eq_ok.mpr ⟨_, settleDifference_eq (by omega) (by omega), ?_⟩
          dsimp only
          split <;> rfl

def accumulateLoop (accumulator element : List UInt8) : Except Overflow (List UInt8) :=
  (accumulateBytes accumulator element).map Prod.fst

def deductLoop (accumulator element : List UInt8) : Except Overflow (List UInt8) :=
  (deductBytes accumulator element).map Prod.fst

theorem accumulateLoop_eq (accumulator element : Bytes32) :
    accumulateLoop accumulator.bytes element.bytes = .ok (accumulate accumulator element).bytes := by
  rw [accumulateLoop, accumulateBytes_eq]
  rfl

theorem deductLoop_eq (accumulator element : Bytes32) :
    deductLoop accumulator.bytes element.bytes = .ok (deduct accumulator element).bytes := by
  rw [deductLoop, deductBytes_eq]
  rfl

/-! ## Sums modulo `2 ^ 256` -/

def number (accumulator : Bytes32) : Nat := value accumulator.bytes

theorem number_lt (accumulator : Bytes32) : number accumulator < 2 ^ 256 := accumulator.value_bound

theorem number_accumulate (accumulator element : Bytes32) :
    number (accumulate accumulator element) = (number accumulator + number element) % 2 ^ 256 :=
  accumulator.value_add element

theorem number_deduct (accumulator element : Bytes32) :
    (number (deduct accumulator element) : Int) = ((number accumulator : Int) - number element) % 2 ^ 256 :=
  accumulator.value_sub element

theorem deduct_accumulate (accumulator element : Bytes32) :
    deduct (accumulate accumulator element) element = accumulator := by
  apply Bytes.eq_of_value
  change number _ = number _
  have difference := number_deduct (accumulate accumulator element) element
  have sum := number_accumulate accumulator element
  have bound := number_lt accumulator
  omega

theorem number_foldl (digests : List Bytes32) (accumulator : Bytes32) :
    number (digests.foldl accumulate accumulator) = (number accumulator + (digests.map number).sum) % 2 ^ 256 := by
  induction digests generalizing accumulator with
  | nil =>
      have bound := number_lt accumulator
      simp only [List.foldl_nil, List.map_nil, List.sum_nil]
      omega
  | cons digest digests ih =>
      rw [List.foldl_cons, ih, number_accumulate, List.map_cons, List.sum_cons]
      omega

theorem foldlM_accumulateLoop (digests : List Bytes32) (accumulator : Bytes32) :
    digests.foldlM (fun bytes digest => accumulateLoop bytes digest.bytes) accumulator.bytes =
      .ok (digests.foldl accumulate accumulator).bytes := by
  induction digests generalizing accumulator with
  | nil => rfl
  | cons digest digests ih =>
      rw [List.foldlM_cons, accumulateLoop_eq, List.foldl_cons, ← ih]
      rfl

/-- Whatever the order of the digests, the loops overflow nowhere and leave the sum of all
modulo `2 ^ 256`; deducting is subtraction modulo `2 ^ 256` and undoes accumulating. -/
theorem accumulator_arithmetic (accumulator : Bytes32) (digests : Multiset Bytes32) :
    (∃ result : Bytes32, number result = (number accumulator + (digests.map number).sum) % 2 ^ 256 ∧
      ∀ order : List Bytes32, (order : Multiset Bytes32) = digests →
        order.foldlM (fun bytes digest => accumulateLoop bytes digest.bytes) accumulator.bytes = .ok result.bytes) ∧
    ∀ element : Bytes32,
      (∃ result : Bytes32, deductLoop accumulator.bytes element.bytes = .ok result.bytes ∧
        (number result : Int) = ((number accumulator : Int) - number element) % 2 ^ 256) ∧
      (accumulateLoop accumulator.bytes element.bytes >>= fun sum => deductLoop sum element.bytes) =
        .ok accumulator.bytes := by
  constructor
  · induction digests using Quotient.inductionOn with
    | h digests =>
        refine ⟨digests.foldl accumulate accumulator, number_foldl digests accumulator, fun order same => ?_⟩
        rw [foldlM_accumulateLoop]
        refine congrArg (fun result : Bytes32 => Except.ok result.bytes) (Bytes.eq_of_value ?_)
        change number _ = number _
        rw [number_foldl, number_foldl, ((Quotient.exact same).map number).sum_eq]
  · intro element
    refine ⟨⟨deduct accumulator element, deductLoop_eq accumulator element, number_deduct accumulator element⟩, ?_⟩
    rw [accumulateLoop_eq]
    change deductLoop (accumulate accumulator element).bytes element.bytes = _
    rw [deductLoop_eq, deduct_accumulate]

/-! ## The text of an accumulator -/

/-- The bytes that pairs of digits stand for, whatever characters the pairs cut. -/
def readPairs : List UInt8 → Option (List UInt8)
  | high :: low :: rest => do
      let byte ← parseByte high low
      let bytes ← readPairs rest
      return byte :: bytes
  | [] => some []
  | [_] => none

def startsInside : List UInt8 → Bool
  | [] => false
  | next :: _ => isContinuation next

/-- After pairs that are read comes one that begins or ends inside a character. -/
def CutsCharacter (bytes : List UInt8) : Prop :=
  ∃ front high low rest, bytes = front ++ high :: low :: rest ∧ (readPairs front).isSome ∧
    (isContinuation high || startsInside rest) = true

def IsLowerDigit (byte : UInt8) : Prop :=
  48 ≤ byte.toNat ∧ byte.toNat ≤ 57 ∨ 97 ≤ byte.toNat ∧ byte.toNat ≤ 102

/-- Induction on a text pair by pair. -/
theorem pairs_induction {motive : (bytes : List UInt8) → bytes.length % 2 = 0 → Prop} (nil : motive [] rfl)
    (pair : ∀ high low rest even, motive rest even →
      motive (high :: low :: rest) ((Nat.add_mod_right rest.length 2).trans even)) :
    ∀ bytes even, motive bytes even
  | [], _ => nil
  | high :: low :: rest, even =>
      have rest_even := (Nat.add_mod_right rest.length 2).symm.trans even
      pair high low rest rest_even (pairs_induction nil pair rest rest_even)

theorem parsePairs_cons (invalid : StoreError) (high low : UInt8) (rest : List UInt8) :
    parsePairs invalid (high :: low :: rest) =
      if isContinuation high || startsInside rest then .error .panicked
      else match parseByte high low with
        | none => .error invalid
        | some byte => parsePairs invalid rest >>= fun bytes => pure (byte :: bytes) := by
  cases rest <;> rfl

theorem cutsCharacter_cons {high low : UInt8} {rest : List UInt8} :
    CutsCharacter (high :: low :: rest) ↔
      (isContinuation high || startsInside rest) = true ∨ (parseByte high low).isSome ∧ CutsCharacter rest := by
  constructor
  · rintro ⟨front, last, follower, after, split, read, inside⟩
    match front with
    | [] =>
        obtain ⟨rfl, rfl, rfl⟩ : high = last ∧ low = follower ∧ rest = after := by simpa using split
        exact .inl inside
    | [_] => simp [readPairs] at read
    | first :: second :: front =>
        obtain ⟨rfl, rfl, rfl⟩ : high = first ∧ low = second ∧ rest = front ++ last :: follower :: after := by
          simpa using split
        rw [readPairs] at read
        cases byte : parseByte high low with
        | none => simp [byte] at read
        | some byte' =>
            refine .inr ⟨rfl, front, last, follower, after, rfl, ?_, inside⟩
            cases bytes : readPairs front with
            | none => simp [byte, bytes] at read
            | some _ => rfl
  · rintro (inside | ⟨byte, front, last, follower, after, rfl, read, inside⟩)
    · exact ⟨[], high, low, rest, rfl, rfl, inside⟩
    · obtain ⟨byte, parsed⟩ := Option.isSome_iff_exists.mp byte
      obtain ⟨bytes, bytes_eq⟩ := Option.isSome_iff_exists.mp read
      refine ⟨high :: low :: front, last, follower, after, rfl, ?_, inside⟩
      simp [readPairs, parsed, bytes_eq]

theorem not_cutsCharacter_nil : ¬ CutsCharacter [] := by
  rintro ⟨front, high, low, rest, split, _⟩
  simp at split

theorem parsePairs_eq_panicked {invalid : StoreError} (other : invalid ≠ .panicked) {bytes : List UInt8}
    (even : bytes.length % 2 = 0) : parsePairs invalid bytes = .error .panicked ↔ CutsCharacter bytes := by
  induction bytes, even using pairs_induction with
  | nil => simp [parsePairs, not_cutsCharacter_nil]
  | pair high low rest even ih =>
      rw [parsePairs_cons, cutsCharacter_cons, ← ih]
      cases inside : isContinuation high || startsInside rest with
      | true => simp
      | false =>
          cases parsed : parseByte high low with
          | none => simp [other]
          | some byte =>
              cases parsePairs invalid rest with
              | error cause => simp [bind, Except.bind]
              | ok bytes => simp [bind, Except.bind, pure, Except.pure]

theorem digitValue_eq_some {byte : UInt8} {digit : Nat} (read : digitValue byte = some digit) :
    isContinuation byte = false := by
  have ascii : byte.toNat < 128 := by
    simp only [digitValue] at read
    split at read
    · omega
    · split at read
      · omega
      · split at read
        · omega
        · cases read
  simp only [isContinuation, Bool.and_eq_false_iff, decide_eq_false_iff_not]
  omega

theorem parseByte_eq_some {high low byte : UInt8} (read : parseByte high low = some byte) :
    isContinuation high = false ∧ isContinuation low = false := by
  unfold parseByte at read
  split at read
  case isTrue plus =>
    obtain ⟨digit, low_eq, _⟩ := Option.map_eq_some_iff.mp read
    refine ⟨?_, digitValue_eq_some low_eq⟩
    simp only [isContinuation, plus, Nat.reduceLeDiff, decide_false, Bool.false_and]
  case isFalse =>
    obtain ⟨upper, high_eq, rest⟩ := Option.bind_eq_some_iff.mp read
    obtain ⟨lower, low_eq, _⟩ := Option.bind_eq_some_iff.mp rest
    exact ⟨digitValue_eq_some high_eq, digitValue_eq_some low_eq⟩

theorem readPairs_cons {high low : UInt8} {rest out : List UInt8} :
    readPairs (high :: low :: rest) = some out ↔
      ∃ byte bytes, parseByte high low = some byte ∧ readPairs rest = some bytes ∧ out = byte :: bytes := by
  rw [readPairs]
  cases parseByte high low with
  | none => simp
  | some byte =>
      cases readPairs rest with
      | none => simp
      | some bytes => simp [eq_comm]

theorem readPairs_ascii {bytes out : List UInt8} (even : bytes.length % 2 = 0)
    (read : readPairs bytes = some out) : startsInside bytes = false ∧ ¬ CutsCharacter bytes := by
  induction bytes, even using pairs_induction generalizing out with
  | nil => exact ⟨rfl, not_cutsCharacter_nil⟩
  | pair high low rest even ih =>
      obtain ⟨byte, bytes, parsed, rest_read, _⟩ := readPairs_cons.mp read
      obtain ⟨outside, uncut⟩ := ih rest_read
      have first := (parseByte_eq_some parsed).1
      refine ⟨first, fun cut => ?_⟩
      rcases cutsCharacter_cons.mp cut with inside | ⟨_, cut⟩
      · simp [first, outside] at inside
      · exact uncut cut

theorem parsePairs_eq_ok {invalid : StoreError} {bytes out : List UInt8} (even : bytes.length % 2 = 0) :
    parsePairs invalid bytes = .ok out ↔ readPairs bytes = some out := by
  induction bytes, even using pairs_induction generalizing out with
  | nil => simp [parsePairs, readPairs]
  | pair high low rest even ih =>
      rw [parsePairs_cons, readPairs_cons]
      constructor
      · intro accepted
        split at accepted
        · cases accepted
        · split at accepted
          · cases accepted
          · rename_i byte parsed
            obtain ⟨bytes, rest_ok, written⟩ := bind_eq_ok.mp accepted
            exact ⟨byte, bytes, parsed, ih.mp rest_ok, (Except.ok.inj written).symm⟩
      · rintro ⟨byte, bytes, parsed, rest_read, rfl⟩
        have outside : (isContinuation high || startsInside rest) = false := by
          rw [(parseByte_eq_some parsed).1, (readPairs_ascii even rest_read).1]
          rfl
        rw [outside, parsed, ih.mpr rest_read]
        rfl

theorem length_readPairs {bytes out : List UInt8} (even : bytes.length % 2 = 0)
    (read : readPairs bytes = some out) : 2 * out.length = bytes.length := by
  induction bytes, even using pairs_induction generalizing out with
  | nil =>
      obtain rfl : [] = out := Option.some.inj read
      rfl
  | pair high low rest even ih =>
      obtain ⟨byte, bytes, _, rest_read, rfl⟩ := readPairs_cons.mp read
      have rest_length := ih rest_read
      simp only [List.length_cons]
      omega

/-! ### Lower-case digits -/

theorem isLowerDigit_digitCode : ∀ digit < 16, IsLowerDigit (digitCode digit) := by
  unfold IsLowerDigit
  decide

theorem IsLowerDigit.eq_digitCode {byte : UInt8} (lower : IsLowerDigit byte) :
    ∃ digit < 16, byte = digitCode digit := by
  rcases lower with ⟨low, high⟩ | ⟨low, high⟩
  · refine ⟨byte.toNat - 48, by omega, ?_⟩
    rw [digitCode, if_pos (by omega), Nat.add_sub_cancel' low, UInt8.ofNat_toNat]
  · refine ⟨byte.toNat - 87, by omega, ?_⟩
    rw [digitCode, if_neg (by omega), Nat.add_sub_cancel' (by omega), UInt8.ofNat_toNat]

theorem utf8Bytes_hex_iff {bytes out : List UInt8} (even : bytes.length % 2 = 0)
    (read : readPairs bytes = some out) : bytes = utf8Bytes (hex out) ↔ ∀ byte ∈ bytes, IsLowerDigit byte := by
  rw [utf8Bytes_hex]
  constructor
  · rintro rfl byte member
    obtain ⟨source, _, written⟩ := List.mem_flatMap.mp member
    rcases List.mem_pair.mp written with rfl | rfl
    · exact isLowerDigit_digitCode _ (digits_lt source).1
    · exact isLowerDigit_digitCode _ (digits_lt source).2
  · intro lower
    induction bytes, even using pairs_induction generalizing out with
    | nil =>
        obtain rfl : [] = out := Option.some.inj read
        rfl
    | pair high low rest even ih =>
        obtain ⟨byte, bytes, parsed, rest_read, rfl⟩ := readPairs_cons.mp read
        obtain ⟨upper, upper_lt, rfl⟩ := (lower high (by simp)).eq_digitCode
        obtain ⟨units, units_lt, rfl⟩ := (lower low (by simp)).eq_digitCode
        have tail := ih rest_read fun byte member => lower byte (by simp [member])
        rw [parseByte_digitCode upper upper_lt units units_lt] at parsed
        obtain rfl := Option.some.inj parsed
        have value_eq : (UInt8.ofNat (upper * 16 + units)).toNat = upper * 16 + units :=
          UInt8.toNat_ofNat_of_lt (show upper * 16 + units < 256 by omega)
        rw [List.flatMap_cons, ← tail, value_eq, show (upper * 16 + units) / 16 = upper by omega,
          show (upper * 16 + units) % 16 = units by omega]
        rfl

/-! ### What is accepted -/

theorem parseAccumulator_of_length_ne (table : String) {value : String} (other : (utf8Bytes value).length ≠ 64) :
    ∃ message, parseAccumulator table value = .error (.integrity message) := by
  unfold parseAccumulator
  rw [if_pos other]
  exact ⟨_, rfl⟩

theorem parseAccumulator_eq_panicked {table value : String} (length : (utf8Bytes value).length = 64) :
    parseAccumulator table value = .error .panicked ↔ CutsCharacter (utf8Bytes value) := by
  unfold parseAccumulator
  extract_lets invalid
  have other : invalid ≠ .panicked := by simp [invalid]
  rw [if_neg (not_not.mpr length), ← parsePairs_eq_panicked other (by rw [length])]
  cases parsePairs invalid (utf8Bytes value) with
  | error cause => simp [bind, Except.bind]
  | ok bytes =>
      simp only [bind, Except.bind]
      split <;> simp [pure, Except.pure]

theorem parseAccumulator_eq_ok {table value : String} (length : (utf8Bytes value).length = 64)
    {accumulator : Bytes32} :
    parseAccumulator table value = .ok accumulator ↔ readPairs (utf8Bytes value) = some accumulator.bytes := by
  unfold parseAccumulator
  rw [if_neg (not_not.mpr length)]
  constructor
  · intro accepted
    obtain ⟨bytes, read, kept⟩ := bind_eq_ok.mp accepted
    split at kept
    · obtain rfl := Except.ok.inj kept
      exact (parsePairs_eq_ok (by rw [length])).mp read
    · cases kept
  · intro read
    rw [(parsePairs_eq_ok (by rw [length])).mpr read]
    simp [bind, Except.bind, pure, Except.pure, accumulator.length_eq]

/-- Every accumulator is read back from its text. A text is read without a panic, and only
as the lower-case text of what it gives, exactly if, in case it has 64 bytes, no pair before
the first unreadable one cuts a character and pairs that are all read are lower-case. -/
theorem parseAccumulator_canonical_iff (table value : String) :
    (∀ accumulator : Bytes32, parseAccumulator table (hex accumulator.bytes) = .ok accumulator) ∧
    ((parseAccumulator table value ≠ .error .panicked ∧
        ∀ accumulator, parseAccumulator table value = .ok accumulator → value = hex accumulator.bytes) ↔
      ((utf8Bytes value).length = 64 →
        ¬ CutsCharacter (utf8Bytes value) ∧
        ((readPairs (utf8Bytes value)).isSome → ∀ byte ∈ utf8Bytes value, IsLowerDigit byte))) := by
  refine ⟨parseAccumulator_hex table, ?_⟩
  by_cases length : (utf8Bytes value).length = 64
  case neg =>
    obtain ⟨message, refused⟩ := parseAccumulator_of_length_ne table length
    simp [refused, length]
  case pos =>
    have canonical {out : List UInt8} (read : readPairs (utf8Bytes value) = some out) :
        value = hex out ↔ ∀ byte ∈ utf8Bytes value, IsLowerDigit byte := by
      rw [← utf8Bytes_hex_iff (by rw [length]) read]
      exact ⟨congrArg utf8Bytes, utf8Bytes_injective⟩
    rw [ne_eq, parseAccumulator_eq_panicked length]
    simp only [length, forall_const]
    refine and_congr_right fun _ => ⟨fun accepted some_read => ?_, fun lower accumulator accepted => ?_⟩
    · obtain ⟨out, read⟩ := Option.isSome_iff_exists.mp some_read
      have pairs := length_readPairs (by rw [length]) read
      let accumulator : Bytes32 := ⟨out, by omega⟩
      exact (canonical read).mp (accepted accumulator ((parseAccumulator_eq_ok length).mpr read))
    · have read := (parseAccumulator_eq_ok length).mp accepted
      exact (canonical read).mpr (lower (by rw [read]; rfl))

/-- A character of two bytes across the end of the first pair panics; upper-case and
lower-case digits are read as one accumulator. -/
theorem parseAccumulator_not_canonical :
    parseAccumulator "finding_events" (String.ofList ('0' :: 'é' :: List.replicate 61 '0')) = .error .panicked ∧
    ∃ accumulator,
      parseAccumulator "finding_events" (String.ofList (List.replicate 64 'A')) = .ok accumulator ∧
      parseAccumulator "finding_events" (String.ofList (List.replicate 64 'a')) = .ok accumulator ∧
      String.ofList (List.replicate 64 'A') ≠ String.ofList (List.replicate 64 'a') := by
  have bytes (text : List Char) : utf8Bytes (String.ofList text) = encodeText text := by
    rw [utf8Bytes, String.toList_ofList]
  refine ⟨?_, ⟨List.replicate 32 170, rfl⟩, ?_, ?_, ?_⟩
  · rw [parseAccumulator_eq_panicked (by rw [bytes]; decide), bytes]
    exact ⟨[], 48, 195, 169 :: List.replicate 61 48, by decide, rfl, by decide⟩
  · rw [parseAccumulator_eq_ok (by rw [bytes]; decide), bytes]
    decide
  · rw [parseAccumulator_eq_ok (by rw [bytes]; decide), bytes]
    decide
  · intro same
    exact absurd (String.ofList_injective same) (by decide)

end ConstellationNq.Store
