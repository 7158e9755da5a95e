import Mathlib.Data.List.Basic

/-!
# Texts and their bytes

The UTF-8 bytes of a text, which determine it, and the characters and bytes that a check
of a text asks for.
-/

set_option autoImplicit false

namespace ConstellationNq.Library.Text

/-- `char::is_control`. -/
def isControl (character : Char) : Bool :=
  character.toNat < 0x20 || (0x7f ≤ character.toNat && character.toNat < 0xa0)

/-- `char::is_whitespace`. -/
def isWhitespace (character : Char) : Bool :=
  let code := character.toNat
  (9 ≤ code && code ≤ 13) || code == 0x20 || code == 0x85 || code == 0xa0 || code == 0x1680 ||
    (0x2000 ≤ code && code ≤ 0x200a) || code == 0x2028 || code == 0x2029 || code == 0x202f || code == 0x205f ||
    code == 0x3000

/-- A text as `{:?}` writes it; every character that is no control counts as printable. -/
def debugText (text : String) : String :=
  let escaped := text.toList.map fun character =>
    match character.toNat with
    | 0 => "\\0"
    | 9 => "\\t"
    | 10 => "\\n"
    | 13 => "\\r"
    | 34 => "\\\""
    | 92 => "\\\\"
    | code =>
        if isControl character then "\\u\x7b" ++ String.ofList (Nat.toDigits 16 code) ++ "\x7d"
        else character.toString
  "\"" ++ String.join escaped ++ "\""

def lineFeed : UInt8 := 10
def carriageReturn : UInt8 := 13

def encodeText (text : List Char) : List UInt8 := text.flatMap String.utf8EncodeChar

def utf8Bytes (text : String) : List UInt8 := encodeText text.toList

theorem utf8Bytes_injective {left right : String} (same : utf8Bytes left = utf8Bytes right) : left = right := by
  have encoded : left.toList.utf8Encode = right.toList.utf8Encode := congrArg List.toByteArray same
  have decoded := congrArg ByteArray.utf8Decode? encoded
  rw [List.utf8Decode?_utf8Encode, List.utf8Decode?_utf8Encode, Option.some.injEq] at decoded
  exact String.toList_inj.mp (List.toArray_inj decoded)

theorem encodeText_append (left right : List Char) : encodeText (left ++ right) = encodeText left ++ encodeText right :=
  List.flatMap_append

theorem encodeText_cons (character : Char) (rest : List Char) :
    encodeText (character :: rest) = String.utf8EncodeChar character ++ encodeText rest :=
  List.flatMap_cons

theorem utf8EncodeChar_ascii {character : Char} (ascii : character.toNat < 128) :
    String.utf8EncodeChar character = [UInt8.ofNat character.toNat] := by
  rw [String.utf8EncodeChar, if_pos (by exact Nat.le_of_lt_succ ascii)]
  rfl

theorem encodeText_ascii {text : List Char} (ascii : ∀ character ∈ text, character.toNat < 128) :
    encodeText text = text.map fun character => UInt8.ofNat character.toNat := by
  induction text with
  | nil => rfl
  | cons character rest ih =>
      obtain ⟨first, others⟩ := List.forall_mem_cons.mp ascii
      rw [encodeText_cons, utf8EncodeChar_ascii first, ih others, List.map_cons, List.singleton_append]

end ConstellationNq.Library.Text
