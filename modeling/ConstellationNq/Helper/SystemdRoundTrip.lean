import ConstellationNq.Helper.SystemdProperties

/-!
# Method calls read back

The encoder appends what the formats of the decoder write, so the header of a method
call is read back field by field.
-/

set_option autoImplicit false

namespace ConstellationNq.Helper

open Library.PlacedCodec Library.Text

/-! ## Encoder -/

/-- An operation of the encoder appends what is written at the end of its bytes. -/
def Appends (put : List UInt8 → List UInt8) (writer : Writer UInt8) : Prop :=
  ∀ bytes, put bytes = bytes ++ writer bytes.length

theorem Appends.andThen {first second : List UInt8 → List UInt8} {before after : Writer UInt8}
    (puts : Appends first before) (others : Appends second after) :
    Appends (fun bytes => second (first bytes)) (before.andThen after) := by
  intro bytes
  change second (first bytes) = _
  rw [puts bytes, others, Writer.andThen, List.length_append, List.append_assoc]

theorem align_appends (size : Nat) : Appends (Encoder.align · size) (pad size) := fun _ => rfl

theorem push_appends (items : List UInt8) : Appends (· ++ items) (.plain items) := fun _ => rfl

theorem putU32_appends (value : Nat) : Appends (Encoder.putU32 · value) (word value) :=
  (align_appends 4).andThen (push_appends _)

theorem putString_appends {value : String} (short : (utf8Bytes value).length < 2 ^ 32) :
    Appends (Encoder.putString · value) (sized value) := by
  intro bytes
  have length : min (utf8Bytes value).length (2 ^ 32 - 1) = (utf8Bytes value).length := by omega
  change Encoder.putString bytes value = _
  rw [Encoder.putString, length, List.append_assoc]
  exact (putU32_appends _).andThen (push_appends _) bytes

theorem putSignature_appends {value : String} (short : (utf8Bytes value).length < 256) :
    Appends (Encoder.putSignature · value) (signed value) := by
  intro bytes
  have length : min (utf8Bytes value).length 255 = (utf8Bytes value).length := by omega
  change Encoder.putSignature bytes value = _
  rw [Encoder.putSignature, length, List.append_assoc]
  exact (push_appends _).andThen (push_appends _) bytes

def textField (code : UInt8) (kind value : String) : Writer UInt8 :=
  (pad 8).andThen <| (Writer.plain [code]).andThen <| (signed kind).andThen (sized value)

theorem putField_appends {code : UInt8} {kind value : String} (kinds : kind = "s" ∨ kind = "o")
    (short : (utf8Bytes value).length < 2 ^ 32) :
    Appends (Encoder.putField · code kind value) (textField code kind value) := by
  have shortKind : (utf8Bytes kind).length < 256 := by
    rcases kinds with rfl | rfl <;> decide
  exact (align_appends 8).andThen ((push_appends [code]).andThen
    ((putSignature_appends shortKind).andThen (putString_appends short)))

def textFields (fields : List (UInt8 × String × String)) : Writer UInt8 :=
  fields.foldr (fun (code, kind, value) rest => (textField code kind value).andThen rest) .nothing

/-- A text of a kind that is skipped, under a code that does not name an error. -/
def SkippedText (field : UInt8 × String × String) : Prop :=
  field.1 ≠ 4 ∧ (field.2.1 = "s" ∨ field.2.1 = "o") ∧ Prefixed (2 ^ 32) field.2.2

theorem putFields_appends {fields : List (UInt8 × String × String)} (skipped : ∀ field ∈ fields, SkippedText field) :
    Appends (Encoder.putFields · fields) (textFields fields) := by
  induction fields with
  | nil => exact fun bytes => (List.append_nil bytes).symm
  | cons field fields ih =>
      obtain ⟨⟨_, kinds, prefixed⟩, others⟩ := List.forall_mem_cons.mp skipped
      exact (putField_appends kinds prefixed.1).andThen (ih others)

def signatureField (signature : String) : Writer UInt8 :=
  if signature = "" then .nothing
  else (pad 8).andThen <| (Writer.plain [8]).andThen <| (signed "g").andThen (signed signature)

theorem putBodySignature_appends {signature : String} (short : (utf8Bytes signature).length < 256) :
    Appends (Encoder.putBodySignature · signature) (signatureField signature) := by
  intro bytes
  unfold signatureField Encoder.putBodySignature
  dsimp only
  by_cases empty : signature = ""
  · rw [if_pos empty, if_pos empty]
    exact (List.append_nil bytes).symm
  · rw [if_neg empty, if_neg empty]
    exact (align_appends 8).andThen ((push_appends [8]).andThen
      ((putSignature_appends (by decide)).andThen (putSignature_appends short))) bytes

/-! ## Reading the fields -/

section Fields

variable {data : List UInt8} {place next fieldsEnd fuel : Nat} {header : BusHeader}

theorem headerField_text {field : UInt8 × String × String} (skipped : SkippedText field)
    (stands : (textField field.1 field.2.1 field.2.2).Stands data place next) :
    headerField header data place = .ok (header, next) := by
  obtain ⟨code, kind, value⟩ := field
  obtain ⟨other, kinds, prefixed⟩ := skipped
  obtain ⟨aligned, padded, stands⟩ := Writer.stands_andThen.mp stands
  obtain ⟨coded, byte, stands⟩ := Writer.stands_andThen.mp stands
  obtain ⟨kinded, kindText, text⟩ := Writer.stands_andThen.mp stands
  have shortKind : Prefixed 256 kind := by
    rcases kinds with rfl | rfl <;> exact ⟨by decide, by decide⟩
  refine decoder_bind_eq_ok.mpr ⟨(), aligned, ((Reply.align_reads 8).accepts padded.within).mpr ⟨_, rfl, padded⟩, ?_⟩
  refine decoder_bind_eq_ok.mpr ⟨code, coded, (Reply.byte_reads.accepts byte.within).mpr ⟨_, ⟨trivial, rfl⟩, byte⟩, ?_⟩
  refine decoder_bind_eq_ok.mpr ⟨kind, kinded,
    (Reply.signature_reads.accepts kindText.within).mpr ⟨_, ⟨shortKind, rfl⟩, kindText⟩, ?_⟩
  have number : ¬ (code = 5 ∧ kind = "u") := fun ⟨_, same⟩ => by
    rcases kinds with rfl | rfl <;> exact absurd same (by decide)
  have signature : ¬ (code = 8 ∧ kind = "g") := fun ⟨_, same⟩ => by
    rcases kinds with rfl | rfl <;> exact absurd same (by decide)
  rw [if_neg fun both => other both.1, if_neg number, if_neg signature, if_pos kinds]
  exact decoder_bind_eq_ok.mpr ⟨value, next, (Reply.string_reads.accepts text.within).mpr ⟨_, ⟨prefixed, rfl⟩, text⟩, rfl⟩

theorem headerFields_step {after : BusHeader} (within : place ≤ data.length) (before : next ≤ fieldsEnd)
    (read : headerField header data place = .ok (after, next)) :
    headerFields fieldsEnd (fuel + 1) header data place = headerFields fieldsEnd fuel after data next := by
  have forward := headerField_moves within read
  rw [headerFields_succ, if_pos (by omega), read]
  rfl

theorem headerFields_texts {fields : List (UInt8 × String × String)} (skipped : ∀ field ∈ fields, SkippedText field)
    (stands : (textFields fields).Stands data place next) (before : next ≤ fieldsEnd) :
    headerFields fieldsEnd (fuel + fields.length) header data place = headerFields fieldsEnd fuel header data next := by
  induction fields generalizing place with
  | nil => rw [(Writer.stands_nothing.mp stands).2]; rfl
  | cons field fields ih =>
      obtain ⟨first, others⟩ := List.forall_mem_cons.mp skipped
      obtain ⟨middle, starts, follows⟩ := Writer.stands_andThen.mp stands
      rw [List.length_cons, ← Nat.add_assoc, headerFields_step starts.within (follows.place_le.trans before)
        (headerField_text first starts)]
      exact ih others follows

/-- The signature is the last field, and is read back even if it is left out. -/
theorem headerFields_signature {signature : String} (prefixed : Prefixed 256 signature) (fresh : header.signature = "")
    (stands : (signatureField signature).Stands data place fieldsEnd) :
    headerFields fieldsEnd (fuel + 1) header data place = .ok ({ header with signature := signature }, fieldsEnd) := by
  unfold signatureField at stands
  by_cases empty : signature = ""
  · rw [if_pos empty] at stands
    have ended := (Writer.stands_nothing.mp stands).2
    rw [headerFields_succ, if_neg (by omega), ended, empty, ← fresh]
  · rw [if_neg empty] at stands
    obtain ⟨aligned, padded, stands⟩ := Writer.stands_andThen.mp stands
    obtain ⟨coded, byte, stands⟩ := Writer.stands_andThen.mp stands
    obtain ⟨kinded, kindText, text⟩ := Writer.stands_andThen.mp stands
    have read : headerField header data place = .ok ({ header with signature := signature }, fieldsEnd) := by
      refine decoder_bind_eq_ok.mpr ⟨(), aligned, ((Reply.align_reads 8).accepts padded.within).mpr ⟨_, rfl, padded⟩, ?_⟩
      refine decoder_bind_eq_ok.mpr ⟨8, coded, (Reply.byte_reads.accepts byte.within).mpr ⟨_, ⟨trivial, rfl⟩, byte⟩, ?_⟩
      refine decoder_bind_eq_ok.mpr ⟨"g", kinded,
        (Reply.signature_reads.accepts kindText.within).mpr ⟨_, ⟨⟨by decide, by decide⟩, rfl⟩, kindText⟩, ?_⟩
      rw [if_neg (by decide), if_neg (by decide), if_pos (by decide)]
      exact decoder_bind_eq_ok.mpr ⟨signature, fieldsEnd,
        (Reply.signature_reads.accepts text.within).mpr ⟨_, ⟨prefixed, rfl⟩, text⟩, rfl⟩
    rw [headerFields_step padded.within (Nat.le_refl _) read]
    cases fuel with
    | zero => rw [headerFields_zero, if_neg (Nat.lt_irrefl _)]
    | succ fuel => rw [headerFields_succ, if_neg (Nat.lt_irrefl _)]

end Fields

/-! ## Method calls -/

theorem indexU32_append {before after : List UInt8} {value : Nat} (fits : value < 2 ^ 32) :
    indexU32 (before ++ (toLeBytes value ++ after)) before.length = .ok value := by
  have each (offset : Nat) (byte : UInt8) (known : (toLeBytes value ++ after)[offset]? = some byte) :
      index (before ++ (toLeBytes value ++ after)) (before.length + offset) = .ok byte := by
    rw [index, List.getElem?_append_right (Nat.le_add_right _ _), Nat.add_sub_cancel_left, known]
  unfold indexU32
  rw [each 1 _ rfl, each 2 _ rfl, each 3 _ rfl, ← Nat.add_zero before.length, each 0 _ rfl]
  exact congrArg Except.ok (fromLeBytes_ofNat fits)

theorem parseHeader_message {start fields body : List UInt8} {texts : List (UInt8 × String × String)} {signature : String}
    (started : start.length = 12) (written : fields = ((textFields texts).andThen (signatureField signature)) 16)
    (skipped : ∀ field ∈ texts, SkippedText field) (few : texts.length < 16) (prefixed : Prefixed 256 signature)
    (fits : fields.length < 2 ^ 32) {message : List UInt8}
    (whole : message = start ++ (toLeBytes fields.length ++ (fields ++ (pad 8 (16 + fields.length) ++ body)))) :
    ∃ header, parseHeader message = .ok header ∧ header.signature = signature ∧ message.drop header.bodyStart = body := by
  have read : indexU32 message 12 = .ok fields.length := by
    rw [whole, ← started]
    exact indexU32_append fits
  have padded := le_alignTo (16 + fields.length) (by decide : 0 < 8)
  have padding : (pad 8 (16 + fields.length)).length = alignTo (16 + fields.length) 8 - (16 + fields.length) :=
    List.length_replicate
  have front : (start ++ toLeBytes fields.length ++ fields).length = 16 + fields.length := by
    rw [List.length_append, List.length_append, started]
    rfl
  have front8 : (start ++ toLeBytes fields.length ++ fields ++ pad 8 (16 + fields.length)).length =
      alignTo (16 + fields.length) 8 := by
    rw [List.length_append, front, padding]
    omega
  have split : message = start ++ toLeBytes fields.length ++ fields ++ pad 8 (16 + fields.length) ++ body := by
    rw [whole]
    simp only [List.append_assoc]
  have taken : message.take (16 + fields.length) = start ++ toLeBytes fields.length ++ fields := by
    rw [split, List.append_assoc _ _ body, ← front, List.take_left]
  have zeros : (message.take (alignTo (16 + fields.length) 8)).drop (16 + fields.length) = pad 8 (16 + fields.length) := by
    rw [split, ← front8, List.take_left, ← front, List.drop_left, front]
  obtain ⟨messageType, _, parsed⟩ := parseHeader_eq read (by rw [split, List.length_append, front8]; omega)
  have stands : ((textFields texts).andThen (signatureField signature)).Stands
      (start ++ toLeBytes fields.length ++ fields) 16 (16 + fields.length) := by
    refine ⟨by omega, ?_, by rw [← written]⟩
    have sixteen : (start ++ toLeBytes fields.length).length = 16 := by
      rw [List.length_append, started]
      rfl
    rw [← written, ← sixteen, List.drop_left]
  obtain ⟨middle, first, last⟩ := Writer.stands_andThen.mp stands
  have fuel : 16 + fields.length = (15 - texts.length + fields.length) + 1 + texts.length := by omega
  have ran (header : BusHeader) (fresh : header.signature = "") : headerFields (16 + fields.length) (16 + fields.length)
      header (start ++ toLeBytes fields.length ++ fields) 16 =
        .ok ({ header with signature := signature }, 16 + fields.length) := by
    have turns := @headerFields_texts _ 16 middle (16 + fields.length) ((15 - texts.length + fields.length) + 1) header
      texts skipped first last.place_le
    rw [← fuel] at turns
    rw [turns]
    exact headerFields_signature prefixed fresh last
  refine ⟨{ freshHeader messageType (alignTo (16 + fields.length) 8) with signature := signature }, ?_, rfl, ?_⟩
  · rw [parsed, taken, ran _ rfl, zeros]
    change (if 16 + fields.length = 16 + fields.length then _ else _) = _
    rw [if_pos rfl, if_neg (by simp [pad])]
  · change message.drop (alignTo (16 + fields.length) 8) = body
    rw [split, ← front8, List.drop_left]

section Call

variable (serial : UInt32) (destination path interface member signature : String) (body : List UInt8)

def callTexts : List (UInt8 × String × String) :=
  [(1, "o", path), (2, "s", interface), (3, "s", member), (6, "s", destination)]

def callFields : List UInt8 :=
  ((textFields (callTexts destination path interface member)).andThen (signatureField signature)) 16

def callStart : List UInt8 := [108, methodCallType, noAutoStart, 1] ++ toLeBytes body.length ++ toLeBytes serial.toNat

def callMessage : List UInt8 :=
  let fields := callFields destination path interface member signature
  callStart serial body ++ (toLeBytes fields.length ++ (fields ++ (pad 8 (16 + fields.length) ++ body)))

variable {serial destination path interface member signature body}

section Framed

variable {fields message : List UInt8} (framed : message =
  callStart serial body ++ (toLeBytes fields.length ++ (fields ++ (pad 8 (16 + fields.length) ++ body))))

include framed

theorem length_framed : message.length = alignTo (16 + fields.length) 8 + body.length := by
  have padded := le_alignTo (16 + fields.length) (by decide : 0 < 8)
  simp only [framed, callStart, toLeBytes, pad, List.length_append, List.length_cons, List.length_nil,
    List.length_replicate]
  omega

theorem messageLength_framed (bodyFits : body.length < 2 ^ 32) (fieldsFit : fields.length < 2 ^ 32)
    (bounded : message.length ≤ maxMessageBytes) : messageLength (message.take 16) = .ok message.length := by
  rw [length_framed framed] at bounded ⊢
  subst framed
  have fieldsRead : indexU32 (callStart serial body ++ (toLeBytes fields.length ++ (fields ++
      (pad 8 (16 + fields.length) ++ body)))) 12 = .ok fields.length := indexU32_append fieldsFit
  have bodyRead : indexU32 (callStart serial body ++ (toLeBytes fields.length ++ (fields ++
      (pad 8 (16 + fields.length) ++ body)))) 4 = .ok body.length := by
    rw [callStart, List.append_assoc, List.append_assoc]
    exact indexU32_append bodyFits
  unfold messageLength
  rw [index_take (by decide), index_take (by decide), indexU32_take (by decide), indexU32_take (by decide),
    bodyRead, fieldsRead]
  simp [callStart, index, bind, Except.bind, pure, Except.pure, bounded]

end Framed

theorem length_le_textFields {fields : List (UInt8 × String × String)} {field : UInt8 × String × String}
    (member : field ∈ fields) (place : Nat) : (utf8Bytes field.2.2).length ≤ (textFields fields place).length := by
  induction fields generalizing place with
  | nil => cases member
  | cons first fields ih =>
      change _ ≤ ((textField first.1 first.2.1 first.2.2).andThen (textFields fields) place).length
      rw [Writer.andThen, List.length_append]
      cases member with
      | head => simp [textField, sized, terminated, Writer.andThen, Writer.plain]; omega
      | tail _ later => exact Nat.le_add_left_of_le (ih later _)

theorem methodCall_eq (skipped : ∀ field ∈ callTexts destination path interface member, SkippedText field)
    (short : (utf8Bytes signature).length < 256) (bodyFits : body.length < 2 ^ 32) {fields : List UInt8}
    (isFields : callFields destination path interface member signature = fields) (fieldsFit : fields.length < 2 ^ 32)
    {payload : Option (String × List UInt8)} (given : payload.getD ("", []) = (signature, body)) :
    methodCall serial destination path interface member payload =
      .ok (callMessage serial destination path interface member signature body) := by
  have started (value : Nat) : (callStart serial body ++ toLeBytes value).length = 16 := rfl
  have reserved : Encoder.putU32 (Encoder.putU32 (Encoder.putU32 [108, methodCallType, noAutoStart, 1] body.length)
      serial.toNat) 0 = callStart serial body ++ toLeBytes 0 := by
    simp [Encoder.putU32, Encoder.align, alignTo, toLeBytes, callStart]
  have appended : Encoder.putBodySignature (Encoder.putFields (callStart serial body ++ toLeBytes 0)
      (callTexts destination path interface member)) signature = callStart serial body ++ toLeBytes 0 ++ fields :=
    isFields ▸ (putFields_appends skipped).andThen (putBodySignature_appends short) _
  have length (value : Nat) : (callStart serial body ++ toLeBytes value ++ fields).length = 16 + fields.length := by
    rw [List.length_append, started]
  have patched : Encoder.patchU32 (callStart serial body ++ toLeBytes 0 ++ fields) 12 fields.length =
      .ok (callStart serial body ++ toLeBytes fields.length ++ fields) := by
    rw [Encoder.patchU32, if_neg (Nat.not_le.mpr fieldsFit), if_pos (by rw [length]; omega)]
    rfl
  unfold methodCall
  rw [given]
  dsimp only
  rw [if_neg (Nat.not_le.mpr bodyFits), reserved]
  change (Encoder.patchU32 (Encoder.putBodySignature (Encoder.putFields (callStart serial body ++ toLeBytes 0)
    (callTexts destination path interface member)) signature) 12 ((Encoder.putBodySignature (Encoder.putFields
    (callStart serial body ++ toLeBytes 0) (callTexts destination path interface member)) signature).length - 16) >>= _) = _
  rw [appended]
  rw [length, Nat.add_sub_cancel_left, patched]
  refine congrArg Except.ok ?_
  rw [Encoder.align, length, callMessage, isFields, List.append_assoc, List.append_assoc, List.append_assoc]
  rfl

/-- The texts of a bounded message are short enough for their prefixes. -/
theorem skipped_callTexts (plain : ∀ text ∈ [destination, path, interface, member], 0 ∉ utf8Bytes text)
    (fits : (callFields destination path interface member signature).length < 2 ^ 32) :
    ∀ field ∈ callTexts destination path interface member, SkippedText field := by
  intro field listed
  have short := length_le_textFields listed 16
  have inside : (textFields (callTexts destination path interface member) 16).length ≤
      (callFields destination path interface member signature).length := by
    rw [callFields, Writer.andThen, List.length_append]
    exact Nat.le_add_right _ _
  have text : field.1 ≠ 4 ∧ (field.2.1 = "s" ∨ field.2.1 = "o") ∧ field.2.2 ∈ [destination, path, interface, member] := by
    simp only [callTexts, List.mem_cons, List.not_mem_nil, or_false] at listed
    rcases listed with rfl | rfl | rfl | rfl <;> simp
  exact ⟨text.1, text.2.1, by omega, plain _ text.2.2⟩

/-- A method call within the bound has the length that its prefix tells, and its header
is read back with the signature and the place of the body. -/
theorem methodCall_readBack (serial : UInt32) (destination path interface member : String)
    (payload : Option (String × List UInt8)) (signature : String) (body : List UInt8)
    (given : payload.getD ("", []) = (signature, body))
    (plain : ∀ text ∈ [destination, path, interface, member], 0 ∉ utf8Bytes text)
    (signed : (utf8Bytes signature).length ≤ 255 ∧ 0 ∉ utf8Bytes signature)
    (bounded : (callMessage serial destination path interface member signature body).length ≤ maxMessageBytes) :
    ∃ message header, methodCall serial destination path interface member payload = .ok message ∧
      message.length = (callMessage serial destination path interface member signature body).length ∧
      messageLength (message.take 16) = .ok message.length ∧ parseHeader message = .ok header ∧
      header.signature = signature ∧ message.drop header.bodyStart = body := by
  have total := @length_framed serial body _ (callMessage serial destination path interface member signature body) rfl
  have padded := le_alignTo (16 + (callFields destination path interface member signature).length) (by decide : 0 < 8)
  have limit : maxMessageBytes = 65536 := rfl
  have fieldsFit : (callFields destination path interface member signature).length < 2 ^ 32 := by omega
  have skipped := skipped_callTexts plain fieldsFit
  have prefixed : Prefixed 256 signature := ⟨Nat.lt_succ_of_le signed.1, signed.2⟩
  obtain ⟨header, parsed, named, rest⟩ := @parseHeader_message (callStart serial body) _ body _ signature rfl rfl skipped
    (show 4 < 16 by decide) prefixed fieldsFit _ rfl
  exact ⟨_, header, methodCall_eq skipped prefixed.1 (by omega) rfl fieldsFit given, rfl,
    messageLength_framed rfl (by omega) fieldsFit bounded, parsed, named, rest⟩

end Call

theorem methodCall_readBack_listUnits : ∃ message header,
    methodCall 2 "org.freedesktop.systemd1" "/org/freedesktop/systemd1" "org.freedesktop.systemd1.Manager"
      "ListUnitsByNames" (some ("as", [2, 0, 0, 0])) = .ok message ∧
      message.length = (callMessage 2 "org.freedesktop.systemd1" "/org/freedesktop/systemd1"
        "org.freedesktop.systemd1.Manager" "ListUnitsByNames" "as" [2, 0, 0, 0]).length ∧
      messageLength (message.take 16) = .ok message.length ∧ parseHeader message = .ok header ∧
      header.signature = "as" ∧ message.drop header.bodyStart = [2, 0, 0, 0] :=
  methodCall_readBack 2 "org.freedesktop.systemd1" "/org/freedesktop/systemd1" "org.freedesktop.systemd1.Manager"
    "ListUnitsByNames" (some ("as", [2, 0, 0, 0])) "as" [2, 0, 0, 0] rfl
    (by simp only [List.forall_mem_cons]; decide +kernel) (by decide +kernel) (by decide +kernel)

end ConstellationNq.Helper
