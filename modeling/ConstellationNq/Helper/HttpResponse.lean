import ConstellationNq.Library.Loop
import ConstellationNq.Library.Pattern
import ConstellationNq.Library.Text

/-!
# Reading an HTTP response

`read_response` of the operator-beta helper over a connection that the peer closes
cleanly, with every read within the deadline. The header text is kept as its bytes: all
its delimiters are ASCII, so cutting the bytes of a valid UTF-8 text cuts the text.
-/

set_option autoImplicit false

namespace ConstellationNq.Helper

open Library.Pattern Library.Text

structure CollectionFailure where
  code : String
  message : String
  retriable : Bool
deriving DecidableEq

def maxHeaderBytes : Nat := 16384

/-! ## Headers -/

def space : UInt8 := 32
def tab : UInt8 := 9
def colon : UInt8 := 58

def headerTerminator : List UInt8 := [carriageReturn, lineFeed, carriageReturn, lineFeed]

def isAsciiDigit (byte : UInt8) : Bool := 48 ≤ byte && byte ≤ 57

def isAsciiAlphanumeric (byte : UInt8) : Bool :=
  isAsciiDigit byte || (65 ≤ byte && byte ≤ 90) || (97 ≤ byte && byte ≤ 122)

def toAsciiLowercase (byte : UInt8) : UInt8 := if 65 ≤ byte && byte ≤ 90 then byte + 32 else byte

def eqIgnoreAsciiCase (left right : List UInt8) : Bool := left.map toAsciiLowercase == right.map toAsciiLowercase

def validHeaderNameByte (byte : UInt8) : Bool :=
  isAsciiAlphanumeric byte || (utf8Bytes "!#$%&'*+-.^_`|~").contains byte

def validHeaderValueByte (byte : UInt8) : Bool := byte == tab || (32 ≤ byte && byte ≤ 126)

def validateHeaderSyntax (name value : List UInt8) : Except CollectionFailure PUnit :=
  if name.isEmpty || !name.all validHeaderNameByte then
    .error ⟨"http_header_name", "HTTP header name is outside the bounded token syntax", false⟩
  else if !value.all validHeaderValueByte then
    .error ⟨"http_header_value", "HTTP header value contains a disallowed byte", false⟩
  else .ok ⟨⟩

def decimal (digits : List UInt8) : Nat := digits.foldl (fun value digit => value * 10 + (digit.toNat - 48)) 0

def isBlank (byte : UInt8) : Bool := byte == space || byte == tab

def trimBlanks (text : List UInt8) : List UInt8 :=
  ((text.dropWhile isBlank).reverse.dropWhile isBlank).reverse

/-- The parts of `splitn(3, ' ')`; the last is the reason phrase, which is not looked at. -/
def statusParts (line : List UInt8) : List UInt8 × List UInt8 × List UInt8 :=
  match splitOnce space line with
  | none => (line, [], [])
  | some (version, rest) =>
      match splitOnce space rest with
      | none => (version, rest, [])
      | some (statusText, reason) => (version, statusText, reason)

/-- Three digits always fit a `u16`. -/
def parseStatus (line : List UInt8) : Except CollectionFailure Nat :=
  let (version, statusText, _) := statusParts line
  if (version == utf8Bytes "HTTP/1.0" || version == utf8Bytes "HTTP/1.1") && statusText.length == 3 &&
      statusText.all isAsciiDigit then
    if 200 ≤ decimal statusText && decimal statusText ≤ 999 then .ok (decimal statusText)
    else .error ⟨"http_interim_or_invalid", "interim and non-final HTTP status values are refused", false⟩
  else .error ⟨"http_status_invalid", "HTTP status line is outside the beta framing", false⟩

def parseContentLength (value : List UInt8) : Except CollectionFailure Nat :=
  let value := trimBlanks value
  if value.isEmpty || (1 < value.length && value.head? == some 48) || !value.all isAsciiDigit then
    .error ⟨"http_content_length_invalid", "Content-Length is not canonical decimal", false⟩
  else if 2 ^ 64 ≤ decimal value then
    .error ⟨"http_content_length_invalid", "Content-Length exceeds usize", false⟩
  else .ok (decimal value)

/-- One header line after those that gave `contentLength`. -/
def parseHeaderLine (contentLength : Option Nat) (line : List UInt8) : Except CollectionFailure (Option Nat) :=
  if (line.head?.map isBlank).getD false then
    .error ⟨"http_header_folding", "folded HTTP headers are refused", false⟩
  else
    match splitOnce colon line with
    | none => .error ⟨"http_header_invalid", "HTTP header lacks a colon", false⟩
    | some (name, value) => do
        validateHeaderSyntax name value
        if eqIgnoreAsciiCase name (utf8Bytes "transfer-encoding") then
          .error ⟨"http_transfer_encoding", "every Transfer-Encoding is refused", false⟩
        else if eqIgnoreAsciiCase name (utf8Bytes "content-length") then
          if contentLength.isSome then
            .error ⟨"http_content_length_duplicate", "duplicate Content-Length is refused", false⟩
          else return some (← parseContentLength value)
        else return contentLength

def parseHeaderText (text : List UInt8) : Except CollectionFailure (Nat × Nat) :=
  if headerTerminator.isSuffixOf text then
    match lines carriageReturn lineFeed (text.take (text.length - 4)) with
    | [] => .error ⟨"http_status_missing", "HTTP status line is missing", false⟩
    | statusLine :: headers => do
        let status ← parseStatus statusLine
        match ← headers.foldlM parseHeaderLine none with
        | none => .error ⟨"http_content_length_missing", "one Content-Length is required", false⟩
        | some contentLength => return (status, contentLength)
  else .error ⟨"http_header_framing", "HTTP header terminator is missing", false⟩

/-- `parse_headers`: the status and the content length. -/
def parseHeaders (bytes : List UInt8) : Except CollectionFailure (Nat × Nat) :=
  if bytes.toByteArray.utf8Decode?.isSome then parseHeaderText bytes
  else .error ⟨"http_header_encoding", "HTTP headers are not UTF-8", false⟩

/-! ## The connection -/

/-- The bytes still to come, after which the peer has closed, and how many of them each
read is offered. -/
structure TcpStream where
  unread : List UInt8
  offered : Nat → Nat

/-- A read gives at least one byte until the stream has ended, and never more than the
buffer holds. -/
def TcpStream.read (stream : TcpStream) (buffer : Nat) : List UInt8 × TcpStream :=
  let count := min buffer (max 1 (stream.offered 0))
  (stream.unread.take count,
    { unread := stream.unread.drop count, offered := fun turn => stream.offered (turn + 1) })

namespace TcpStream

variable {stream : TcpStream} {buffer : Nat}

@[simp] theorem read_append : (stream.read buffer).1 ++ (stream.read buffer).2.unread = stream.unread :=
  List.take_append_drop _ _

theorem read_length : (stream.read buffer).1.length ≤ buffer := by
  simp only [read, List.length_take]
  omega

theorem read_eq_nil (room : 0 < buffer) : (stream.read buffer).1 = [] ↔ stream.unread = [] := by
  simp only [read, List.take_eq_nil_iff]
  constructor
  · rintro (none | ended)
    · omega
    · exact ended
  · exact Or.inr

theorem read_lt (some : (stream.read buffer).1 ≠ []) : (stream.read buffer).2.unread.length < stream.unread.length := by
  have lengths := congrArg List.length (@read_append stream buffer)
  have positive := List.length_pos_iff.mpr some
  rw [List.length_append] at lengths
  omega

end TcpStream

structure HttpResponse where
  status : Nat
  body : List UInt8
deriving DecidableEq

def findHeaderEnd (bytes : List UInt8) : Option Nat := firstAt headerTerminator bytes

def headerBound : CollectionFailure := ⟨"http_header_bound", "HTTP headers exceed 16384 bytes", false⟩

def headerIncomplete : CollectionFailure := ⟨"http_header_incomplete", "HTTP headers ended before the terminator", true⟩

def bodyBound : CollectionFailure := ⟨"http_body_bound", "declared HTTP body exceeds the exact scope bound", false⟩

def bodyLength : CollectionFailure :=
  ⟨"http_body_length", "HTTP response carried bytes beyond Content-Length", false⟩

def bodyIncomplete : CollectionFailure := ⟨"http_body_incomplete", "HTTP body ended before Content-Length", true⟩

/-- The first loop of `read_response`: where the headers end, and what has been read. -/
def readHeader (received : List UInt8) (stream : TcpStream) :
    Except CollectionFailure (Nat × List UInt8 × TcpStream) :=
  match findHeaderEnd received with
  | some position =>
      if maxHeaderBytes < position + 4 then .error headerBound else .ok (position + 4, received, stream)
  | none =>
      if maxHeaderBytes ≤ received.length then .error headerBound
      else if _ : (stream.read 4096).1 = [] then .error headerIncomplete
      else readHeader (received ++ (stream.read 4096).1) (stream.read 4096).2
termination_by stream.unread.length
decreasing_by exact TcpStream.read_lt ‹_›

def readBody (contentLength : Nat) (body : List UInt8) (stream : TcpStream) :
    Except CollectionFailure (List UInt8 × TcpStream) :=
  if body.length < contentLength then
    let buffer := min (contentLength - body.length) 4096
    if _ : (stream.read buffer).1 = [] then .error bodyIncomplete
    else readBody contentLength (body ++ (stream.read buffer).1) (stream.read buffer).2
  else .ok (body, stream)
termination_by stream.unread.length
decreasing_by exact TcpStream.read_lt ‹_›

def readResponse (maximumBody : Nat) (stream : TcpStream) : Except CollectionFailure HttpResponse := do
  let (headerEnd, received, stream) ← readHeader [] stream
  let (status, contentLength) ← parseHeaders (received.take headerEnd)
  if maximumBody < contentLength then .error bodyBound
  else
    let body := received.drop headerEnd
    if contentLength < body.length then .error bodyLength
    else do
      let (body, stream) ← readBody contentLength body stream
      if (stream.read 1).1 = [] then return { status := status, body := body } else .error bodyLength

end ConstellationNq.Helper
