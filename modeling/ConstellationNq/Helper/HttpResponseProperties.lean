import ConstellationNq.Helper.HttpResponse

/-!
# What the HTTP reader accepts

The result of reading a response is a function of the bytes of the connection. An
accepted header block has no line end or unprintable byte outside its reason phrase.
-/

set_option autoImplicit false

namespace ConstellationNq.Helper

open Library.Loop Library.Pattern Library.Text

/-! ## Segmentation -/

def headerEndOf (bytes : List UInt8) : Except CollectionFailure Nat :=
  match findHeaderEnd bytes with
  | some position => if maxHeaderBytes < position + 4 then .error headerBound else .ok (position + 4)
  | none => if maxHeaderBytes ≤ bytes.length then .error headerBound else .error headerIncomplete

/-- What the first loop returns about the connection it reads from. -/
structure HeaderRead (whole : List UInt8) (result : Except CollectionFailure (Nat × List UInt8 × TcpStream)) : Prop where
  headerEnd : result.map Prod.fst = headerEndOf whole
  kept : ∀ position received stream, result = .ok (position, received, stream) →
    received ++ stream.unread = whole ∧ position ≤ received.length

theorem headerEndOf_eq_ok {bytes : List UInt8} {headerEnd : Nat} : headerEndOf bytes = .ok headerEnd ↔
    ∃ position, findHeaderEnd bytes = some position ∧ position + 4 ≤ maxHeaderBytes ∧ headerEnd = position + 4 := by
  unfold headerEndOf
  cases findHeaderEnd bytes with
  | none => by_cases full : maxHeaderBytes ≤ bytes.length <;> simp [full]
  | some position =>
      by_cases exceeds : maxHeaderBytes < position + 4
      · simp [exceeds]
      · simp [exceeds, Nat.not_lt.mp exceeds, eq_comm]

theorem readHeader_reads (received : List UInt8) (stream : TcpStream) :
    HeaderRead (received ++ stream.unread) (readHeader received stream) := by
  induction received, stream using readHeader.induct with
  | case1 received stream position found exceeds =>
      have first : findHeaderEnd (received ++ stream.unread) = some position := firstAt_append found
      rw [readHeader]
      simp only [found, if_pos exceeds]
      exact ⟨by simp [headerEndOf, first, exceeds, Except.map], nofun⟩
  | case2 received stream position found within =>
      have first : findHeaderEnd (received ++ stream.unread) = some position := firstAt_append found
      rw [readHeader]
      simp only [found, if_neg within]
      constructor
      case headerEnd => simp [headerEndOf, first, within, Except.map]
      case kept =>
        rintro _ _ _ ⟨⟩
        exact ⟨rfl, firstAt_length found⟩
  | case3 received stream unfound full =>
      rw [readHeader]
      simp only [unfound, if_pos full]
      refine ⟨?_, nofun⟩
      unfold headerEndOf
      cases first : findHeaderEnd (received ++ stream.unread) with
      | none => simp [Except.map, Nat.le_add_right_of_le full]
      | some position =>
          -- A terminator within the bound would have been found in what has been read.
          have exceeds : maxHeaderBytes < position + 4 := by
            by_contra within
            have found : findHeaderEnd received = some position :=
              firstAt_of_append first (Nat.le_trans (Nat.not_lt.mp within) full)
            cases unfound.symm.trans found
          simp [Except.map, exceeds]
  | case4 received stream unfound short ended =>
      have closed := (TcpStream.read_eq_nil (by decide)).mp ended
      rw [readHeader]
      simp only [unfound, if_neg short, dif_pos ended]
      exact ⟨by simp [headerEndOf, closed, unfound, short, Except.map], nofun⟩
  | case5 received stream unfound short more ih =>
      rw [readHeader]
      simp only [unfound, if_neg short, dif_neg more]
      rwa [List.append_assoc, TcpStream.read_append] at ih

theorem readBody_short {contentLength : Nat} (body : List UInt8) (stream : TcpStream)
    (short : (body ++ stream.unread).length < contentLength) :
    readBody contentLength body stream = .error bodyIncomplete := by
  induction body, stream using readBody.induct contentLength with
  | case1 body stream wanted buffer ended =>
      rw [readBody, if_pos wanted]
      exact dif_pos ended
  | case2 body stream wanted buffer more ih =>
      rw [List.append_assoc, TcpStream.read_append] at ih
      rw [readBody, if_pos wanted]
      exact (dif_neg more).trans (ih short)
  | case3 body stream complete =>
      rw [List.length_append] at short
      omega

theorem readBody_enough {contentLength : Nat} (body : List UInt8) (stream : TcpStream)
    (fits : body.length ≤ contentLength) (enough : contentLength ≤ (body ++ stream.unread).length) :
    ∃ final, readBody contentLength body stream = .ok ((body ++ stream.unread).take contentLength, final) ∧
      final.unread = (body ++ stream.unread).drop contentLength := by
  induction body, stream using readBody.induct contentLength with
  | case1 body stream wanted buffer ended =>
      have closed := (TcpStream.read_eq_nil (by omega)).mp ended
      rw [closed, List.append_nil] at enough
      omega
  | case2 body stream wanted buffer more ih =>
      have taken : (stream.read buffer).1.length ≤ buffer := TcpStream.read_length
      have room : (body ++ (stream.read buffer).1).length ≤ contentLength := by
        rw [List.length_append]
        omega
      rw [List.append_assoc, TcpStream.read_append] at ih
      obtain ⟨final, read, left⟩ := ih room enough
      rw [readBody, if_pos wanted]
      exact ⟨final, (dif_neg more).trans read, left⟩
  | case3 body stream complete =>
      have length : body.length = contentLength := by omega
      rw [readBody, if_neg complete]
      exact ⟨stream, by simp [← length], by simp [← length]⟩

def respond (maximumBody : Nat) (bytes : List UInt8) : Except CollectionFailure HttpResponse := do
  let headerEnd ← headerEndOf bytes
  let (status, contentLength) ← parseHeaders (bytes.take headerEnd)
  let body := bytes.drop headerEnd
  if maximumBody < contentLength then .error bodyBound
  else if contentLength < body.length then .error bodyLength
  else if body.length < contentLength then .error bodyIncomplete
  else return { status := status, body := body }

theorem readResponse_eq_respond (maximumBody : Nat) (stream : TcpStream) :
    readResponse maximumBody stream = respond maximumBody stream.unread := by
  have reads := readHeader_reads [] stream
  rw [List.nil_append] at reads
  unfold readResponse respond
  rw [← reads.headerEnd]
  cases read : readHeader [] stream with
  | error failure => rfl
  | ok result =>
      obtain ⟨headerEnd, received, rest⟩ := result
      obtain ⟨whole, within⟩ := reads.kept _ _ _ read
      rw [← whole]
      change (parseHeaders (received.take headerEnd) >>= _) =
        (parseHeaders ((received ++ rest.unread).take headerEnd) >>= _)
      rw [List.take_append_of_le_length within, List.drop_append_of_le_length within]
      refine congrArg _ (funext fun ⟨status, contentLength⟩ => ?_)
      dsimp only
      by_cases exceeds : maximumBody < contentLength
      · rw [if_pos exceeds, if_pos exceeds]
      rw [if_neg exceeds, if_neg exceeds, List.length_append]
      by_cases beyond : contentLength < (received.drop headerEnd).length
      · rw [if_pos beyond, if_pos (by omega)]
      rw [if_neg beyond]
      by_cases short : (received.drop headerEnd).length + rest.unread.length < contentLength
      · have within : ¬ contentLength < (received.drop headerEnd).length + rest.unread.length := by omega
        rw [readBody_short _ _ (by rwa [List.length_append]), if_neg within, if_pos short]
        rfl
      have enough : contentLength ≤ (received.drop headerEnd ++ rest.unread).length := by
        rw [List.length_append]
        exact Nat.not_lt.mp short
      obtain ⟨final, body, left⟩ := readBody_enough _ rest (Nat.not_lt.mp beyond) enough
      rw [body, if_neg short]
      change (if (final.read 1).1 = [] then _ else _) = _
      rw [if_congr ((TcpStream.read_eq_nil Nat.one_pos).trans (by rw [left, List.drop_eq_nil_iff])) rfl rfl,
        List.length_append]
      by_cases exactly : (received.drop headerEnd).length + rest.unread.length ≤ contentLength
      · rw [if_pos exactly, if_neg (by omega), List.take_of_length_le (by rwa [List.length_append])]
      · rw [if_neg exactly, if_pos (by omega)]

theorem respond_eq_ok {maximumBody : Nat} {bytes : List UInt8} {response : HttpResponse} :
    respond maximumBody bytes = .ok response ↔
      ∃ header, bytes = header ++ response.body ∧ EndsAtFirst headerTerminator header ∧
        header.length ≤ maxHeaderBytes ∧ parseHeaders header = .ok (response.status, response.body.length) ∧
        response.body.length ≤ maximumBody := by
  unfold respond
  rw [bind_eq_ok]
  constructor
  · rintro ⟨headerEnd, ended, accepted⟩
    obtain ⟨position, found, within, rfl⟩ := headerEndOf_eq_ok.mp ended
    obtain ⟨⟨status, contentLength⟩, parsed, accepted⟩ := bind_eq_ok.mp accepted
    have fits : position + 4 ≤ bytes.length := firstAt_length found
    have length : (bytes.take (position + 4)).length = position + 4 := List.length_take_of_le fits
    have split : findHeaderEnd (bytes.take (position + 4) ++ bytes.drop (position + 4)) = some position := by
      rwa [List.take_append_drop]
    have first : firstAt headerTerminator (bytes.take (position + 4)) = some position :=
      firstAt_of_append split (Nat.le_of_eq length.symm)
    dsimp only at accepted
    split at accepted
    · cases accepted
    · split at accepted
      · cases accepted
      · split at accepted
        · cases accepted
        · rename_i bounded long short
          cases accepted
          have exactly : contentLength = (bytes.drop (position + 4)).length := by omega
          refine ⟨bytes.take (position + 4), (List.take_append_drop _ _).symm, ?_, by omega, ?_, exactly ▸ Nat.not_lt.mp bounded⟩
          · exact endsAtFirst_iff.mpr ⟨by rw [first, length]; rfl, by rw [length]; exact Nat.le_add_left 4 position⟩
          · rw [parsed, exactly]
  · rintro ⟨header, rfl, ended, within, parsed, bounded⟩
    obtain ⟨found, long⟩ := endsAtFirst_iff.mp ended
    have length : header.length - 4 + 4 = header.length := Nat.sub_add_cancel long
    refine ⟨header.length, headerEndOf_eq_ok.mpr ⟨header.length - 4, firstAt_append found, by omega, length.symm⟩, ?_⟩
    rw [List.take_left, List.drop_left]
    refine bind_eq_ok.mpr ⟨_, parsed, ?_⟩
    dsimp only
    rw [if_neg (Nat.not_lt.mpr bounded), if_neg (Nat.lt_irrefl _), if_neg (Nat.lt_irrefl _)]
    rfl

/-- Whatever the reads are offered, the same bytes give the same result; a response is
returned exactly for a bounded header block that `parse_headers` accepts and a body of
its content length within the bound. -/
theorem readResponse_exact (maximumBody : Nat) (bytes : List UInt8) :
    (∀ offered others : Nat → Nat,
      readResponse maximumBody ⟨bytes, offered⟩ = readResponse maximumBody ⟨bytes, others⟩) ∧
    ∀ (offered : Nat → Nat) (response : HttpResponse), readResponse maximumBody ⟨bytes, offered⟩ = .ok response ↔
      ∃ header, bytes = header ++ response.body ∧ EndsAtFirst headerTerminator header ∧
        header.length ≤ maxHeaderBytes ∧ parseHeaders header = .ok (response.status, response.body.length) ∧
        response.body.length ≤ maximumBody := by
  constructor
  · intro offered others
    rw [readResponse_eq_respond, readResponse_eq_respond]
  · intro offered response
    rw [readResponse_eq_respond]
    exact respond_eq_ok

/-! ## Hidden lines -/

/-- What follows the second space of the status line. -/
def reasonPhrase (bytes : List UInt8) : List UInt8 :=
  (statusParts ((lines carriageReturn lineFeed (bytes.take (bytes.length - 4))).headD [])).2.2

/-- Every carriage return and line feed ends a line together with the other, every other
byte is a tab or printable, and cutting lines at either alone finds the same lines. -/
structure NothingHidden (bytes : List UInt8) : Prop where
  ended : endedBy carriageReturn lineFeed validHeaderValueByte bytes = true
  sameLines : lenientLines carriageReturn lineFeed bytes = lines carriageReturn lineFeed bytes

theorem validHeaderValueByte_of_name {byte : UInt8} (valid : validHeaderNameByte byte = true) :
    validHeaderValueByte byte = true := by
  have table : ∀ code < 256, validHeaderNameByte (UInt8.ofNat code) = true →
      validHeaderValueByte (UInt8.ofNat code) = true := by
    decide +kernel
  have known := table byte.toNat byte.toNat_lt
  rw [UInt8.ofNat_toNat] at known
  exact known valid

theorem validHeaderValueByte_of_digit {byte : UInt8} (digit : isAsciiDigit byte = true) :
    validHeaderValueByte byte = true :=
  validHeaderValueByte_of_name (by simp [validHeaderNameByte, isAsciiAlphanumeric, digit])

theorem valid_of_parseHeaderLine {before after : Option Nat} {line : List UInt8}
    (accepted : parseHeaderLine before line = .ok after) : line.all validHeaderValueByte = true := by
  unfold parseHeaderLine at accepted
  split at accepted
  · cases accepted
  · split at accepted
    · cases accepted
    · rename_i name value found
      obtain ⟨checked, _⟩ := check_bind_eq_ok.mp accepted
      unfold validateHeaderSyntax at checked
      split at checked
      · cases checked
      · split at checked
        · cases checked
        · rename_i named valued
          simp only [Bool.or_eq_true, Bool.not_eq_true', not_or, Bool.not_eq_false] at named valued
          rw [eq_of_splitOnce found, List.all_append, List.all_cons, valued, Bool.and_true, Bool.and_eq_true]
          refine ⟨List.all_eq_true.mpr fun byte member => ?_, rfl⟩
          exact validHeaderValueByte_of_name (List.all_eq_true.mp named.2 byte member)

theorem statusParts_eq {line version statusText reason : List UInt8}
    (parts : statusParts line = (version, statusText, reason)) (nonempty : statusText ≠ []) :
    line = version ++ space :: statusText ∧ reason = [] ∨ line = version ++ space :: (statusText ++ space :: reason) := by
  unfold statusParts at parts
  cases first : splitOnce space line with
  | none =>
      rw [first] at parts
      cases parts
      exact absurd rfl nonempty
  | some halves =>
      obtain ⟨start, rest⟩ := halves
      rw [eq_of_splitOnce first]
      simp only [first] at parts
      cases second : splitOnce space rest with
      | none =>
          rw [second] at parts
          cases parts
          exact .inl ⟨rfl, rfl⟩
      | some halves =>
          rw [second] at parts
          cases parts
          exact .inr (by rw [eq_of_splitOnce second])

/-- Version and status are fixed, so only the reason phrase can hold other bytes. -/
theorem valid_statusLine_iff {line : List UInt8} {status : Nat} (accepted : parseStatus line = .ok status) :
    line.all validHeaderValueByte = true ↔ (statusParts line).2.2.all validHeaderValueByte = true := by
  have versions : (utf8Bytes "HTTP/1.0").all validHeaderValueByte = true ∧
      (utf8Bytes "HTTP/1.1").all validHeaderValueByte = true := by
    decide +kernel
  have spaced : validHeaderValueByte space = true := rfl
  unfold parseStatus at accepted
  cases parts : statusParts line with
  | mk version rest =>
      obtain ⟨statusText, reason⟩ := rest
      simp only [parts] at accepted ⊢
      split at accepted
      · rename_i checks
        simp only [Bool.and_eq_true, Bool.or_eq_true, beq_iff_eq] at checks
        obtain ⟨⟨versioned, length⟩, numeric⟩ := checks
        have digits : statusText.all validHeaderValueByte = true :=
          List.all_eq_true.mpr fun byte member => validHeaderValueByte_of_digit (List.all_eq_true.mp numeric byte member)
        have fixed : version.all validHeaderValueByte = true :=
          versioned.elim (· ▸ versions.1) (· ▸ versions.2)
        have nonempty : statusText ≠ [] := List.ne_nil_of_length_pos (by omega)
        rcases statusParts_eq parts nonempty with ⟨rfl, rfl⟩ | rfl
        · simp [fixed, digits, spaced]
        · simp [fixed, digits, spaced]
      · cases accepted

/-- In an accepted header block nothing is hidden, unless its reason phrase hides it. -/
theorem nothingHidden_iff {bytes : List UInt8} {result : Nat × Nat} (accepted : parseHeaders bytes = .ok result) :
    NothingHidden bytes ↔ (reasonPhrase bytes).all validHeaderValueByte = true := by
  have accepted : parseHeaderText bytes = .ok result := by
    unfold parseHeaders at accepted
    split at accepted
    · exact accepted
    · cases accepted
  have terminated : headerTerminator.isSuffixOf bytes = true := by
    unfold parseHeaderText at accepted
    split at accepted
    · assumption
    · cases accepted
  rw [parseHeaderText, if_pos terminated] at accepted
  obtain ⟨content, rfl⟩ := List.isSuffixOf_iff_suffix.mp terminated
  have taken : (content ++ headerTerminator).take ((content ++ headerTerminator).length - 4) = content := by
    simp [headerTerminator]
  have cut : lines carriageReturn lineFeed (content ++ headerTerminator) =
      lines carriageReturn lineFeed content ++ [[], []] := lines_append (by decide)
  rw [taken] at accepted
  have ended : endedBy carriageReturn lineFeed validHeaderValueByte (content ++ headerTerminator) = true ↔
      (reasonPhrase (content ++ headerTerminator)).all validHeaderValueByte = true := by
    rw [endedBy_iff, cut, reasonPhrase, taken]
    cases split : lines carriageReturn lineFeed content with
    | nil => exact absurd split lines_ne_nil
    | cons statusLine headers =>
        rw [split] at accepted
        obtain ⟨status, statused, accepted⟩ := bind_eq_ok.mp accepted
        obtain ⟨contentLength, folded, _⟩ := bind_eq_ok.mp accepted
        have valid : ∀ line ∈ headers, line.all validHeaderValueByte = true := by
          intro line member
          obtain ⟨_, _, round⟩ := foldlM_round folded member
          exact valid_of_parseHeaderLine round
        rw [List.headD_cons, ← valid_statusLine_iff statused]
        constructor
        · intro all
          exact all statusLine (by simp)
        · intro status line member
          simp only [List.cons_append, List.mem_cons, List.mem_append, List.not_mem_nil, or_false] at member
          rcases member with rfl | member | rfl | rfl
          · exact status
          · exact valid line member
          · rfl
          · rfl
  constructor
  · intro nothing
    exact ended.mp nothing.ended
  · intro clean
    have clean := ended.mpr clean
    exact ⟨clean, lenientLines_of_endedBy rfl rfl clean⟩

private def plainHeaders : String := "HTTP/1.1 200 OK\r\nContent-Length: 3\r\n\r\n"

private def smuggledHeaders : String := "HTTP/1.1 200 OK\nContent-Length: 5\r\nContent-Length: 3\r\n\r\n"

private theorem parseHeaders_utf8Bytes (text : String) :
    parseHeaders (utf8Bytes text) = parseHeaderText (utf8Bytes text) := by
  have decoded : (utf8Bytes text).toByteArray.utf8Decode? = some text.toList.toArray := List.utf8Decode?_utf8Encode
  rw [parseHeaders, decoded]
  rfl

private theorem plainHeaders_accepted : parseHeaders (utf8Bytes plainHeaders) = .ok (200, 3) := by
  rw [parseHeaders_utf8Bytes]
  decide +kernel

theorem nothingHidden_plain : parseHeaders (utf8Bytes plainHeaders) = .ok (200, 3) ∧
    NothingHidden (utf8Bytes plainHeaders) :=
  ⟨plainHeaders_accepted, (nothingHidden_iff plainHeaders_accepted).mpr (by decide +kernel)⟩

/-- A line feed in the reason phrase: another reader sees a second content length. -/
theorem hidden_contentLength : parseHeaders (utf8Bytes smuggledHeaders) = .ok (200, 3) ∧
    utf8Bytes "Content-Length: 5" ∈ lenientLines carriageReturn lineFeed (utf8Bytes smuggledHeaders) ∧
    utf8Bytes "Content-Length: 5" ∉ lines carriageReturn lineFeed (utf8Bytes smuggledHeaders) ∧
    ¬ NothingHidden (utf8Bytes smuggledHeaders) := by
  refine ⟨?_, by decide +kernel, by decide +kernel, fun nothing => ?_⟩
  · rw [parseHeaders_utf8Bytes]
    decide +kernel
  · exact absurd nothing.ended (by decide +kernel)

end ConstellationNq.Helper
