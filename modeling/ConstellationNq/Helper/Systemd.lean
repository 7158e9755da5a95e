import ConstellationNq.Library.PlacedCodec
import ConstellationNq.Library.Text

/-!
# The system bus messages of the host helper

The encoder of method calls and the strict decoder of replies. A place is an index into
the bytes of a message, or of a body, which starts on an 8-byte boundary. Indexing or
slicing out of range is a panic; a loop that does not end is left unfinished.
-/

set_option autoImplicit false

namespace ConstellationNq.Helper

open Library.PlacedCodec Library.Text

inductive BusFault where
  | malformed (message : String)
  | panicked
  | unfinished
deriving DecidableEq

def maxMessageBytes : Nat := 65536
def maxUnitRows : Nat := 16
def unitListSignature : String := "a(ssssssouso)"
def methodCallType : UInt8 := 1
def noAutoStart : UInt8 := 2

/-! ## Bytes -/

def alignTo (offset size : Nat) : Nat := (offset + (size - 1)) / size * size

def toLeBytes (value : Nat) : List UInt8 :=
  [UInt8.ofNat value, UInt8.ofNat (value / 256), UInt8.ofNat (value / 65536), UInt8.ofNat (value / 16777216)]

def fromLeBytes (first second third fourth : UInt8) : Nat :=
  first.toNat + 256 * second.toNat + 65536 * third.toNat + 16777216 * fourth.toNat

variable (bytes : List UInt8)

/-- `from_utf8`. -/
def textOf : Option String :=
  bytes.toByteArray.utf8Decode?.map fun characters => String.ofList characters.toList

def index (offset : Nat) : Except BusFault UInt8 :=
  match bytes[offset]? with
  | some byte => .ok byte
  | none => .error .panicked

def slice (start finish : Nat) : Except BusFault (List UInt8) :=
  if start ≤ finish ∧ finish ≤ bytes.length then .ok ((bytes.take finish).drop start) else .error .panicked

def indexU32 (offset : Nat) : Except BusFault Nat := do
  return fromLeBytes (← index bytes offset) (← index bytes (offset + 1)) (← index bytes (offset + 2)) (← index bytes (offset + 3))

/-! ## Decoder -/

namespace Reply

abbrev Read (α : Type) := Decoder UInt8 BusFault α

def take (count : Nat) : Read (List UInt8) := fun data position =>
  if position + count ≤ data.length then do
    let bytes ← slice data position (position + count)
    return (bytes, position + count)
  else .error (.malformed "the reply is truncated")

def align (size : Nat) : Read Unit := do
  let position ← get
  let padding ← take (alignTo position size - position)
  if padding.any (· != 0) then throw (.malformed "the reply padding is not zero")

def byte : Read UInt8 := do
  match ← take 1 with
  | first :: _ => return first
  | [] => throw .panicked

def u32 : Read Nat := do
  align 4
  match ← take 4 with
  | first :: second :: third :: fourth :: _ => return fromLeBytes first second third fourth
  | _ => throw .panicked

def text (length : Nat) : Read String := do
  let bytes ← take length
  let terminator ← take 1
  if terminator != [0] || bytes.contains 0 then throw (.malformed "a reply string is not NUL-terminated")
  else
    match textOf bytes with
    | some value => return value
    | none => throw (.malformed "a reply string is not UTF-8")

def string : Read String := do
  text (← u32)

def signature : Read String := do
  text (← byte).toNat

def finish : Read Unit := fun data position =>
  if position = data.length then .ok ((), position) else .error (.malformed "the reply carries trailing bytes")

end Reply

/-! ## Messages -/

/-- `message_length` of the fixed first sixteen bytes. -/
def messageLength (fixed : List UInt8) : Except BusFault Nat := do
  if (← index fixed 0) ≠ 108 ∨ (← index fixed 3) ≠ 1 then
    .error (.malformed "the reply is not a little-endian version 1 message")
  else
    let body ← indexU32 fixed 4
    let fields ← indexU32 fixed 12
    let total := alignTo (16 + fields) 8 + body
    if total ≤ maxMessageBytes then return total else .error (.malformed "the reply exceeds its bound")

structure BusHeader where
  messageType : UInt8
  replySerial : Option Nat
  errorName : Option String
  signature : String
  bodyStart : Nat
deriving DecidableEq

/-- A header field after its code. -/
def headerValue (header : BusHeader) (code : UInt8) : Reply.Read BusHeader := do
  let kind ← Reply.signature
  if code = 4 ∧ kind = "s" then return { header with errorName := some (← Reply.string) }
  else if code = 5 ∧ kind = "u" then return { header with replySerial := some (← Reply.u32) }
  else if code = 8 ∧ kind = "g" then return { header with signature := ← Reply.signature }
  else if kind = "s" ∨ kind = "o" then do
    let _ ← Reply.string
    return header
  else if kind = "u" then do
    let _ ← Reply.u32
    return header
  else if kind = "g" then do
    let _ ← Reply.signature
    return header
  else throw (.malformed "the reply carries an unexpected header field")

/-- One turn of the loop of `parse_header`. -/
def headerField (header : BusHeader) : Reply.Read BusHeader := do
  Reply.align 8
  headerValue header (← Reply.byte)

def headerFields (fieldsEnd : Nat) : Nat → BusHeader → Reply.Read BusHeader
  | 0, header => do if (← get) < fieldsEnd then throw .unfinished else return header
  | fuel + 1, header => do
      if (← get) < fieldsEnd then headerFields fieldsEnd fuel (← headerField header) else return header

def freshHeader (messageType : UInt8) (bodyStart : Nat) : BusHeader :=
  { messageType := messageType, replySerial := none, errorName := none, signature := "", bodyStart := bodyStart }

def parseHeader (message : List UInt8) : Except BusFault BusHeader := do
  let fields ← indexU32 message 12
  let fieldsEnd := 16 + fields
  let bodyStart := alignTo fieldsEnd 8
  let data ← slice message 0 fieldsEnd
  let messageType ← index message 1
  let reader : Reply.Read BusHeader := do
    let header ← headerFields fieldsEnd fieldsEnd (freshHeader messageType bodyStart)
    Reply.finish
    return header
  let (header, _) ← reader data 16
  let padding ← slice message fieldsEnd bodyStart
  if padding.any (· != 0) then .error (.malformed "the reply header padding is not zero") else return header

/-! ## Bodies -/

structure BusReply where
  signature : String
  body : List UInt8

structure ManagerUnitRow where
  name : String
  loadState : String
  activeState : String
  subState : String
  following : String
deriving DecidableEq

/-- What a reader gives from the start of a body. -/
def BusReply.decode {α : Type} (reply : BusReply) (reader : Reply.Read α) : Except BusFault α := do
  return (← reader reply.body 0).1

def singleString (reply : BusReply) : Except BusFault String :=
  if reply.signature ≠ "s" then .error (.malformed "the reply signature is not s")
  else reply.decode do
    let value ← Reply.string
    Reply.finish
    return value

def unitRow : Reply.Read ManagerUnitRow := do
  Reply.align 8
  let name ← Reply.string
  let _description ← Reply.string
  let loadState ← Reply.string
  let activeState ← Reply.string
  let subState ← Reply.string
  let following ← Reply.string
  let _unitPath ← Reply.string
  let _jobId ← Reply.u32
  let _jobType ← Reply.string
  let _jobPath ← Reply.string
  return ⟨name, loadState, activeState, subState, following⟩

/-- The loop over the unit array, with room for so many more rows. -/
def unitArray (finish : Nat) : Nat → Reply.Read (List ManagerUnitRow)
  | 0 => do if (← get) < finish then throw (.malformed "the unit array exceeds its bound") else return []
  | room + 1 => do
      if (← get) < finish then
        let row ← unitRow
        return row :: (← unitArray finish room)
      else return []

/-- The unit array of a body of so many bytes, and nothing after it. -/
def unitList (size : Nat) : Reply.Read (List ManagerUnitRow) := do
  let length ← Reply.u32
  Reply.align 8
  let finish := (← get) + length
  if size < finish then throw (.malformed "the unit array overruns the reply")
  else
    let rows ← unitArray finish maxUnitRows
    if (← get) ≠ finish then throw (.malformed "the unit array length is inconsistent")
    else
      Reply.finish
      return rows

def unitRows (reply : BusReply) : Except BusFault (List ManagerUnitRow) :=
  if reply.signature ≠ unitListSignature then
    .error (.malformed "the ListUnitsByNames reply signature is not a(ssssssouso)")
  else reply.decode (unitList reply.body.length)

/-! ## Encoder -/

namespace Encoder

def align (size : Nat) : List UInt8 :=
  bytes ++ List.replicate (alignTo bytes.length size - bytes.length) 0

def putU32 (value : Nat) : List UInt8 := align bytes 4 ++ toLeBytes value

def patchU32 (offset value : Nat) : Except BusFault (List UInt8) :=
  if 2 ^ 32 ≤ value then .error (.malformed "length bound")
  else if offset + 4 ≤ bytes.length then .ok (bytes.take offset ++ toLeBytes value ++ bytes.drop (offset + 4))
  else .error .panicked

def putString (value : String) : List UInt8 :=
  putU32 bytes (min (utf8Bytes value).length (2 ^ 32 - 1)) ++ utf8Bytes value ++ [0]

def putSignature (value : String) : List UInt8 :=
  bytes ++ [UInt8.ofNat (min (utf8Bytes value).length 255)] ++ utf8Bytes value ++ [0]

def putField (code : UInt8) (kind value : String) : List UInt8 :=
  putString (putSignature (align bytes 8 ++ [code]) kind) value

def putFields (fields : List (UInt8 × String × String)) : List UInt8 :=
  fields.foldl (fun message (code, kind, value) => putField message code kind value) bytes

/-- The field that names the signature of the body, unless that is empty. -/
def putBodySignature (signature : String) : List UInt8 :=
  if signature = "" then bytes else putSignature (putSignature (align bytes 8 ++ [8]) "g") signature

end Encoder

def methodCall (serial : UInt32) (destination path interface member : String) (body : Option (String × List UInt8)) :
    Except BusFault (List UInt8) := do
  let (signature, body) := body.getD ("", [])
  if 2 ^ 32 ≤ body.length then .error (.malformed "body bound")
  else
    let fixed := Encoder.putU32 (Encoder.putU32 [108, methodCallType, noAutoStart, 1] body.length) serial.toNat
    let reserved := Encoder.putU32 fixed 0
    let fieldsAt := reserved.length - 4
    let fields := Encoder.putFields reserved
      [(1, "o", path), (2, "s", interface), (3, "s", member), (6, "s", destination)]
    let fields := Encoder.putBodySignature fields signature
    let patched ← Encoder.patchU32 fields fieldsAt (fields.length - 16)
    return Encoder.align patched 8 ++ body

end ConstellationNq.Helper
