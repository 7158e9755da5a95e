import ConstellationNq.Library.JsonDocument

/-!
# The concrete syntax of JSON

A tree keeps every byte of its text: the blanks, the spelling of each
string and of each number, and members whose key an object already has.
-/

set_option autoImplicit false

namespace ConstellationNq.Library.JsonSyntax

open Library.JsonDocument (Document readLiteral)

/-! ## Bytes -/

def quote : UInt8 := 0x22
def backslash : UInt8 := 0x5c
def colon : UInt8 := 0x3a
def comma : UInt8 := 0x2c
def openBracket : UInt8 := 0x5b
def closeBracket : UInt8 := 0x5d
def openBrace : UInt8 := 0x7b
def closeBrace : UInt8 := 0x7d

def isBlank (byte : UInt8) : Bool :=
  byte == 0x20 || (byte == 0x09 || (byte == 0x0a || byte == 0x0d))

/-- The bytes of numbers and of the three words. -/
def isWordByte (byte : UInt8) : Bool :=
  (0x30 ≤ byte && byte ≤ 0x39) || ((0x61 ≤ byte && byte ≤ 0x7a) || ((0x41 ≤ byte && byte ≤ 0x5a) ||
    (byte == 0x2b || (byte == 0x2d || byte == 0x2e))))

/-- The bytes that stand for themselves in a string. -/
def isOrdinary (byte : UInt8) : Bool :=
  0x20 ≤ byte && (byte != quote && byte != backslash)

theorem isOrdinary_iff {byte : UInt8} (ordinary : isOrdinary byte = true) : byte ≠ quote ∧ byte ≠ backslash := by
  simpa [isOrdinary] using (Bool.and_eq_true_iff.mp ordinary).2

/-! ## Trees -/

abbrev Blanks := { bytes : List UInt8 // bytes.all isBlank = true }

/-- What a number or a word stands for. -/
def wordDocument (raw : List UInt8) : Option Document :=
  let characters := raw.map fun byte => Char.ofNat byte.toNat
  if characters = ['n', 'u', 'l', 'l'] then some .null
  else if characters = ['t', 'r', 'u', 'e'] then some (.bool true)
  else if characters = ['f', 'a', 'l', 's', 'e'] then some (.bool false)
  else match readLiteral characters with
    | some (literal, []) => some (.number literal)
    | _ => none

def isWord (raw : List UInt8) : Bool := raw.all isWordByte && (wordDocument raw).isSome

abbrev Word := { raw : List UInt8 // isWord raw = true }

/-- A part of a string: a byte that stands for itself, or a backslash and the byte after it. -/
inductive Piece where
  | plain (byte : UInt8) (ordinary : isOrdinary byte = true)
  | escape (byte : UInt8)

def Piece.text : Piece → List UInt8
  | .plain byte _ => [byte]
  | .escape byte => [backslash, byte]

def spelling (pieces : List Piece) : List UInt8 := pieces.flatMap Piece.text

/-- What precedes an item or a member. -/
inductive Separator where
  | opening (blanks : Blanks)
  | comma (before after : Blanks)

def Separator.text : Separator → List UInt8
  | .opening blanks => blanks.val
  | .comma before after => before.val ++ JsonSyntax.comma :: after.val

mutual

inductive Tree where
  | word (word : Word)
  | string (pieces : List Piece)
  | array (items : Items)
  | object (members : Members)

inductive Items where
  | done (blanks : Blanks)
  | item (separator : Separator) (value : Tree) (rest : Items)

inductive Members where
  | done (blanks : Blanks)
  | member (separator : Separator) (key : List Piece) (beforeColon afterColon : Blanks) (value : Tree)
      (rest : Members)

end

mutual

def Tree.text : Tree → List UInt8
  | .word word => word.val
  | .string pieces => quote :: (spelling pieces ++ [quote])
  | .array items => openBracket :: items.text
  | .object members => openBrace :: members.text

def Items.text : Items → List UInt8
  | .done blanks => blanks.val ++ [closeBracket]
  | .item separator value rest => separator.text ++ (value.text ++ rest.text)

def Members.text : Members → List UInt8
  | .done blanks => blanks.val ++ [closeBrace]
  | .member separator key beforeColon afterColon value rest =>
      separator.text ++ (quote :: (spelling key ++ quote :: (beforeColon.val ++ colon :: (afterColon.val ++
        (value.text ++ rest.text)))))

end

end ConstellationNq.Library.JsonSyntax
