import ConstellationNq.Library.Loop
import ConstellationNq.Library.Pattern
import ConstellationNq.Library.Text

/-!
# The mount table

`parse_mountinfo` and `select_mount` of the host resource helper. Lines and fields are
cut as characters; the escapes of a field are read from its bytes, as in the source, and
a slice of the field that does not fall on characters ends the program.
-/

set_option autoImplicit false

namespace ConstellationNq.Helper

open Library.Pattern Library.Text

/-- The only way the parser can end without a result. -/
inductive Panic where
  | notCharBoundary
deriving DecidableEq

structure MountEntry where
  mountId : UInt64
  parentId : UInt64
  major : UInt32
  minor : UInt32
  root : String
  mountPoint : String
  fsType : String
deriving DecidableEq

/-! ## Bytes of a text -/

/-- A byte at which no character goes on. -/
def startsChar (byte : UInt8) : Bool := byte < 128 || 192 ≤ byte

def isCharBoundary (bytes : List UInt8) (index : Nat) : Bool :=
  match bytes[index]? with
  | some byte => index == 0 || startsChar byte
  | none => index == bytes.length

/-- A number may carry a plus sign. -/
def stripPlus (source : List UInt8) : List UInt8 := if source.head? = some 43 then source.tail else source

/-- `from_str_radix` of an unsigned type with values below `bound`. -/
def fromStrRadix (radix bound : Nat) (source : List UInt8) : Option Nat :=
  let digits := stripPlus source
  let value := digits.foldl (fun value digit => radix * value + (digit.toNat - 48)) 0
  if !digits.isEmpty && digits.all (fun digit => 48 ≤ digit.toNat && digit.toNat < 48 + radix) && value < bound then
    some value
  else none

/-- The length of a character by its first byte, and the range of its second. -/
def charWidth (lead : UInt8) : Nat :=
  if lead < 128 then 1
  else if 0xC2 ≤ lead && lead ≤ 0xDF then 2
  else if 0xE0 ≤ lead && lead ≤ 0xEF then 3
  else if 0xF0 ≤ lead && lead ≤ 0xF4 then 4
  else 0

def secondByte (lead second : UInt8) : Bool :=
  if lead == 0xE0 then 0xA0 ≤ second && second ≤ 0xBF
  else if lead == 0xED then 0x80 ≤ second && second ≤ 0x9F
  else if lead == 0xF0 then 0x90 ≤ second && second ≤ 0xBF
  else if lead == 0xF4 then 0x80 ≤ second && second ≤ 0x8F
  else 0x80 ≤ second && second ≤ 0xBF

/-- How many bytes of a broken character belong to it after the first. -/
def brokenTail (lead : UInt8) : List UInt8 → Nat
  | second :: third :: _ =>
      if 3 ≤ charWidth lead && secondByte lead second then if charWidth lead == 4 && !startsChar third then 2 else 1
      else 0
  | [second] => if 3 ≤ charWidth lead && secondByte lead second then 1 else 0
  | [] => 0

/-- `from_utf8_lossy`: one replacement character for each broken one. -/
def fromUtf8Lossy : List UInt8 → List Char
  | [] => []
  | lead :: rest =>
      match (lead :: rest).toByteArray.utf8DecodeChar? 0 with
      | some character => character :: fromUtf8Lossy (rest.drop (character.utf8Size - 1))
      | none => Char.ofNat 0xFFFD :: fromUtf8Lossy (rest.drop (brokenTail lead rest))
termination_by bytes => bytes.length
decreasing_by all_goals simp only [List.length_drop, List.length_cons]; omega

def backslash : UInt8 := 92

/-- The loop of `unescape_mount_field`, over the bytes still to be read. The slice of the
three bytes after a backslash is taken before they are known to be digits. -/
def unescapeBytes : List UInt8 → Except Panic (List UInt8)
  | byte :: first :: second :: third :: rest =>
      if byte == backslash then
        if startsChar first && (rest.head?.map startsChar).getD true then
          match fromStrRadix 8 256 [first, second, third] with
          | some value => (unescapeBytes rest).map (UInt8.ofNat value :: ·)
          | none => (unescapeBytes (first :: second :: third :: rest)).map (byte :: ·)
        else .error .notCharBoundary
      else (unescapeBytes (first :: second :: third :: rest)).map (byte :: ·)
  | byte :: rest => (unescapeBytes rest).map (byte :: ·)
  | [] => .ok []

def unescapeMountField (field : List Char) : Except Panic String :=
  (unescapeBytes (encodeText field)).map fun bytes => String.ofList (fromUtf8Lossy bytes)

/-! ## Lines -/

def stripReturn (line : List Char) : List Char := if line.getLast? = some '\r' then line.dropLast else line

/-- `lines`, after the part of a line that has been read. -/
def textLines (line : List Char) : List Char → List (List Char)
  | [] => if line.isEmpty then [] else [line]
  | character :: rest =>
      if character = '\n' then stripReturn line :: textLines [] rest else textLines (line ++ [character]) rest

def separator : List Char := [' ', '-', ' ']

structure MountFields where
  mountId : UInt64
  parentId : UInt64
  major : UInt32
  minor : UInt32
  root : List Char
  mountPoint : List Char
  fsType : List Char
deriving DecidableEq

def parseNumber (bits : Nat) (field : List Char) : Option Nat := fromStrRadix 10 (2 ^ bits) (encodeText field)

/-- The fields of a line; a line without them is malformed. The identities are read
before the escapes. -/
def mountFields (line : List Char) : Option MountFields := do
  let place ← firstAt separator line
  match (line.take place).splitOn ' ' with
  | mountId :: parentId :: device :: root :: mountPoint :: _ :: _ =>
      let (major, minor) ← splitOnce ':' device
      let fsType ← ((line.drop (place + 3)).splitOn ' ').head?
      let mountId ← parseNumber 64 mountId
      let parentId ← parseNumber 64 parentId
      let major ← parseNumber 32 major
      let minor ← parseNumber 32 minor
      return { mountId := .ofNat mountId, parentId := .ofNat parentId, major := .ofNat major, minor := .ofNat minor,
               root, mountPoint, fsType }
  | _ => none

def MountFields.unescape (fields : MountFields) : Except Panic MountEntry := do
  let root ← unescapeMountField fields.root
  let mountPoint ← unescapeMountField fields.mountPoint
  return { mountId := fields.mountId, parentId := fields.parentId, major := fields.major, minor := fields.minor,
           root, mountPoint, fsType := String.ofList fields.fsType }

def parseMountLine (line : List Char) : Except Panic (Option MountEntry) :=
  match mountFields line with
  | none => .ok none
  | some fields => fields.unescape.map some

def parseMountLines (lines : List (List Char)) : Except Panic (List MountEntry) :=
  (lines.mapM parseMountLine).map List.reduceOption

def parseMountinfo (text : String) : Except Panic (List MountEntry) := parseMountLines (textLines [] text.toList)

/-! ## Selection -/

/-- No other candidate is mounted on the entry. -/
def isTop (candidates : List MountEntry) (entry : MountEntry) : Bool :=
  !candidates.any fun other => other.mountId != entry.mountId && other.parentId == entry.mountId

def selectMount (entries : List MountEntry) (mountpoint : String) : Option MountEntry :=
  let candidates := entries.filter (·.mountPoint == mountpoint)
  match candidates.filter (isTop candidates) with
  | [top] => some top
  | _ => none

end ConstellationNq.Helper
