import ConstellationNq.Helper.Systemd

/-!
# What the bus decoder accepts

Each part of the decoder reads one format: padding, words, texts and the structs of the
unit array. The decoder stays within its data and never panics.
-/

set_option autoImplicit false

namespace ConstellationNq.Helper

open Library.Loop Library.PlacedCodec Library.Text

/-! ## Formats -/

def pad (size : Nat) : Writer UInt8 := fun place => List.replicate (alignTo place size - place) 0

def word (value : Nat) : Writer UInt8 := (pad 4).andThen (.plain (toLeBytes value))

def terminated (text : String) : Writer UInt8 := .plain (utf8Bytes text ++ [0])

def sized (text : String) : Writer UInt8 := (word (utf8Bytes text).length).andThen (terminated text)

def signed (text : String) : Writer UInt8 :=
  (Writer.plain [UInt8.ofNat (utf8Bytes text).length]).andThen (terminated text)

/-- A text without a zero whose length has a prefix. -/
def Prefixed (bound : Nat) (text : String) : Prop := (utf8Bytes text).length < bound ∧ 0 ∉ utf8Bytes text

theorem toLeBytes_fromLeBytes (first second third fourth : UInt8) :
    toLeBytes (fromLeBytes first second third fourth) = [first, second, third, fourth] := by
  have := first.toNat_lt
  have := second.toNat_lt
  have := third.toNat_lt
  have := fourth.toNat_lt
  simp only [toLeBytes, fromLeBytes, List.cons.injEq, and_true, ← UInt8.toNat_inj, UInt8.toNat_ofNat']
  omega

theorem fromLeBytes_lt (first second third fourth : UInt8) : fromLeBytes first second third fourth < 2 ^ 32 := by
  have := first.toNat_lt
  have := second.toNat_lt
  have := third.toNat_lt
  have := fourth.toNat_lt
  unfold fromLeBytes
  omega

theorem fromLeBytes_ofNat {value : Nat} (fits : value < 2 ^ 32) :
    fromLeBytes (UInt8.ofNat value) (UInt8.ofNat (value / 256)) (UInt8.ofNat (value / 65536))
      (UInt8.ofNat (value / 16777216)) = value := by
  simp only [fromLeBytes, UInt8.toNat_ofNat']
  omega

variable {bytes : List UInt8}

theorem textOf_eq_some {text : String} : textOf bytes = some text ↔ bytes = utf8Bytes text := by
  constructor
  · intro decoded
    obtain ⟨characters, read, rfl⟩ := Option.map_eq_some_iff.mp decoded
    have encoded := @ByteArray.utf8Encode_get_utf8Decode? bytes.toByteArray (by rw [read]; rfl)
    simp only [read, Option.get_some] at encoded
    have same := congrArg (fun array => array.data.toList) encoded
    simpa [List.utf8Encode, utf8Bytes, encodeText] using same.symm
  · rintro rfl
    have decoded : (utf8Bytes text).toByteArray.utf8Decode? = some text.toList.toArray := List.utf8Decode?_utf8Encode
    rw [textOf, decoded]
    simp

namespace Reply

theorem reads_take (count : Nat) : Reads (take count) fun bytes writer => bytes.length = count ∧ writer = .plain bytes := by
  refine ⟨fun {data place bytes next} within => ?_⟩
  unfold take
  constructor
  · intro taken
    split at taken
    · rename_i fits
      rw [slice, if_pos ⟨Nat.le_add_right _ _, fits⟩] at taken
      cases taken
      have length : ((data.take (place + count)).drop place).length = count := by
        rw [List.length_drop, List.length_take_of_le fits]
        omega
      refine ⟨_, ⟨length, rfl⟩, within, ?_, by rw [Writer.plain, length]⟩
      rw [Writer.plain, List.drop_take]
      exact List.take_prefix _ _
    · cases taken
  · rintro ⟨_, ⟨rfl, rfl⟩, _, written, rfl⟩
    rw [Writer.plain] at written ⊢
    have fits := written.length_le
    rw [List.length_drop] at fits
    have fits : place + bytes.length ≤ data.length := by omega
    rw [if_pos fits, slice, if_pos ⟨Nat.le_add_right _ _, fits⟩, List.drop_take, Nat.add_sub_cancel_left,
      ← List.prefix_iff_eq_take.mp written]
    rfl

theorem align_reads (size : Nat) : Reads (align size) fun _ writer => writer = pad size := by
  refine ⟨fun {data place value next} within => ?_⟩
  change (take (alignTo place size - place) >>= fun padding =>
    if padding.any (· != 0) then throw _ else pure ()) data place = _ ↔ _
  rw [decoder_bind_eq_ok]
  constructor
  · rintro ⟨padding, middle, taken, checked⟩
    obtain ⟨_, ⟨length, rfl⟩, stands⟩ := ((reads_take _).accepts within).mp taken
    split at checked
    · cases checked
    · rename_i zeros
      cases checked
      have same : padding = pad size place := by
        refine List.eq_replicate_iff.mpr ⟨length, fun item member => ?_⟩
        by_contra nonzero
        exact zeros (List.any_eq_true.mpr ⟨item, member, by simpa using nonzero⟩)
      rw [same] at stands
      exact ⟨_, rfl, stands.within, stands.written, stands.ends⟩
  · rintro ⟨_, rfl, stands⟩
    have length : (pad size place).length = alignTo place size - place := List.length_replicate
    refine ⟨pad size place, next, ((reads_take _).accepts within).mpr
      ⟨_, ⟨length, rfl⟩, stands.within, stands.written, stands.ends⟩, ?_⟩
    rw [if_neg (by simp [pad])]
    rfl

/-- What `byte` makes of the byte it has taken, and `u32` of its four. -/
def firstByte : List UInt8 → Read UInt8
  | first :: _ => pure first
  | [] => throw .panicked

def fourBytes : List UInt8 → Read Nat
  | first :: second :: third :: fourth :: _ => pure (fromLeBytes first second third fourth)
  | _ => throw .panicked

theorem byte_reads : Reads byte fun value writer => True ∧ writer = .plain [value] := by
  have head (bytes : List UInt8) : Reads (firstByte bytes)
      fun value writer => bytes.head? = some value ∧ writer = .nothing := by
    cases bytes with
    | nil => exact (Reads.throw).of_iff (by simp)
    | cons first rest => exact (Reads.pure first).of_iff (by simp [eq_comm])
  refine ((reads_take 1).field head).of_iff fun value writer => ?_
  constructor
  · rintro ⟨bytes, length, _, ⟨first, rfl⟩, rfl⟩
    obtain ⟨only, rfl⟩ := List.length_eq_one_iff.mp length
    cases first
    exact ⟨trivial, Writer.andThen_nothing⟩
  · rintro ⟨_, rfl⟩
    exact ⟨[value], rfl, _, ⟨rfl, rfl⟩, Writer.andThen_nothing.symm⟩

theorem u32_reads : Reads u32 fun value writer => value < 2 ^ 32 ∧ writer = word value := by
  have four : Reads (take 4 >>= fourBytes) fun value writer => value < 2 ^ 32 ∧ writer = .plain (toLeBytes value) := by
    refine ⟨fun {data place value next} within => ?_⟩
    rw [decoder_bind_eq_ok]
    constructor
    · rintro ⟨bytes, middle, taken, matched⟩
      obtain ⟨_, ⟨length, rfl⟩, stands⟩ := ((reads_take 4).accepts within).mp taken
      obtain ⟨first, second, third, fourth, rfl⟩ := List.length_eq_four.mp length
      cases matched
      refine ⟨_, ⟨fromLeBytes_lt _ _ _ _, rfl⟩, ?_⟩
      rwa [toLeBytes_fromLeBytes]
    · rintro ⟨_, ⟨fits, rfl⟩, stands⟩
      refine ⟨toLeBytes value, next, ((reads_take 4).accepts within).mpr ⟨_, ⟨rfl, rfl⟩, stands⟩, ?_⟩
      exact congrArg (fun number => Except.ok (number, next)) (fromLeBytes_ofNat fits)
  refine ((align_reads 4).bind fun _ => four).of_iff fun value writer => ?_
  constructor
  · rintro ⟨_, _, _, rfl, ⟨fits, rfl⟩, rfl⟩
    exact ⟨fits, rfl⟩
  · rintro ⟨fits, rfl⟩
    exact ⟨(), _, _, rfl, ⟨fits, rfl⟩, rfl⟩

theorem text_reads (length : Nat) : Reads (text length) fun value writer =>
    ((utf8Bytes value).length = length ∧ 0 ∉ utf8Bytes value) ∧ writer = terminated value := by
  refine ⟨fun {data place value next} within => ?_⟩
  rw [text, decoder_bind_eq_ok]
  constructor
  · rintro ⟨bytes, middle, taken, later⟩
    obtain ⟨_, ⟨sized, rfl⟩, stands⟩ := ((reads_take length).accepts within).mp taken
    obtain ⟨zero, final, ended, decoded⟩ := decoder_bind_eq_ok.mp later
    obtain ⟨_, ⟨_, rfl⟩, ends⟩ := ((reads_take 1).accepts stands.next_le).mp ended
    split at decoded
    · cases decoded
    · rename_i plain
      simp only [Bool.or_eq_true, bne_iff_ne, List.contains_iff_mem, not_or, not_not] at plain
      obtain ⟨rfl, plain⟩ := plain
      cases known : textOf bytes with
      | none =>
          rw [known] at decoded
          cases decoded
      | some text =>
          rw [known] at decoded
          cases decoded
          rw [textOf_eq_some] at known
          subst known
          exact ⟨_, ⟨⟨sized, plain⟩, rfl⟩, Writer.stands_andThen.mpr ⟨middle, stands, ends⟩⟩
  · rintro ⟨_, ⟨⟨sized, plain⟩, rfl⟩, stands⟩
    obtain ⟨middle, starts, ends⟩ := (@Writer.stands_andThen _ (.plain (utf8Bytes value)) (.plain [0]) _ _ _).mp stands
    refine ⟨_, middle, ((reads_take length).accepts within).mpr ⟨_, ⟨sized, rfl⟩, starts⟩, ?_⟩
    refine decoder_bind_eq_ok.mpr ⟨_, next, ((reads_take 1).accepts starts.next_le).mpr ⟨_, ⟨rfl, rfl⟩, ends⟩, ?_⟩
    rw [if_neg (by simpa using plain), textOf_eq_some.mpr rfl]
    rfl

theorem string_reads : Reads string fun value writer => Prefixed (2 ^ 32) value ∧ writer = sized value := by
  refine (u32_reads.field text_reads).of_iff fun value writer => ?_
  constructor
  · rintro ⟨_, fits, _, ⟨⟨rfl, plain⟩, rfl⟩, rfl⟩
    exact ⟨⟨fits, plain⟩, rfl⟩
  · rintro ⟨⟨fits, plain⟩, rfl⟩
    exact ⟨_, fits, _, ⟨⟨rfl, plain⟩, rfl⟩, rfl⟩

theorem signature_reads : Reads signature fun value writer => Prefixed 256 value ∧ writer = signed value := by
  refine (byte_reads.field fun length => text_reads length.toNat).of_iff fun value writer => ?_
  constructor
  · rintro ⟨length, _, _, ⟨⟨same, plain⟩, rfl⟩, rfl⟩
    refine ⟨⟨same ▸ length.toNat_lt, plain⟩, ?_⟩
    rw [signed, same, UInt8.ofNat_toNat]
  · rintro ⟨⟨fits, plain⟩, rfl⟩
    have length : (UInt8.ofNat (utf8Bytes value).length).toNat = (utf8Bytes value).length := by
      rw [UInt8.toNat_ofNat', Nat.mod_eq_of_lt fits]
    exact ⟨_, trivial, _, ⟨⟨length.symm, plain⟩, rfl⟩, rfl⟩

/-! ## Safety -/

end Reply

/-- A fault that the helper reports. -/
def BusFault.Reported (fault : BusFault) : Prop := ∃ message, fault = .malformed message

theorem malformed_reported (message : String) : (BusFault.malformed message).Reported := ⟨message, rfl⟩

namespace Reply

theorem take_steady (count : Nat) : Steady BusFault.Reported (take count) where
  moves within taken := by
    obtain ⟨_, _, stands⟩ := ((reads_take count).accepts within).mp taken
    exact ⟨stands.place_le, stands.next_le⟩
  fails {data place fault} within failed := by
    unfold take at failed
    split at failed
    · rename_i fits
      rw [slice, if_pos ⟨Nat.le_add_right _ _, fits⟩] at failed
      cases failed
    · cases failed
      exact malformed_reported _

theorem align_steady (size : Nat) : Steady BusFault.Reported (align size) := by
  refine .get fun place => (take_steady _).bind fun _ _ => ?_
  split
  · exact .throw (malformed_reported _)
  · exact .pure ()

theorem byte_steady : Steady BusFault.Reported byte := by
  refine (take_steady 1).bind fun {_ _ bytes _} within taken => ?_
  obtain ⟨_, ⟨length, _⟩, _⟩ := ((reads_take 1).accepts within).mp taken
  match bytes, length with
  | [only], _ => exact .pure only

theorem u32_steady : Steady BusFault.Reported u32 := by
  refine (align_steady 4).bind fun _ _ => (take_steady 4).bind fun {_ _ bytes _} within taken => ?_
  obtain ⟨_, ⟨length, _⟩, _⟩ := ((reads_take 4).accepts within).mp taken
  match bytes, length with
  | [first, second, third, fourth], _ => exact .pure _

theorem text_steady (length : Nat) : Steady BusFault.Reported (text length) := by
  refine (take_steady length).bind fun _ _ => (take_steady 1).bind fun _ _ => ?_
  split
  · exact .throw (malformed_reported _)
  · split
    · exact .pure _
    · exact .throw (malformed_reported _)

theorem string_steady : Steady BusFault.Reported string := u32_steady.bind fun _ _ => text_steady _

theorem signature_steady : Steady BusFault.Reported signature := byte_steady.bind fun _ _ => text_steady _

theorem finish_steady : Steady BusFault.Reported finish where
  moves within finished := by
    unfold finish at finished
    split at finished
    · cases finished
      exact ⟨Nat.le_refl _, within⟩
    · cases finished
  fails within failed := by
    unfold finish at failed
    split at failed
    · cases failed
    · cases failed
      exact malformed_reported _

end Reply

/-! ## Headers -/

theorem headerValue_steady (header : BusHeader) (code : UInt8) : Steady BusFault.Reported (headerValue header code) := by
  refine Reply.signature_steady.bind fun _ _ => ?_
  repeat' split
  all_goals first
    | exact Reply.string_steady.bind fun _ _ => .pure _
    | exact Reply.u32_steady.bind fun _ _ => .pure _
    | exact Reply.signature_steady.bind fun _ _ => .pure _
    | exact .throw (malformed_reported _)

theorem headerField_steady (header : BusHeader) : Steady BusFault.Reported (headerField header) :=
  (Reply.align_steady 8).bind fun _ _ => Reply.byte_steady.bind fun _ _ => headerValue_steady header _

variable {data : List UInt8} {header : BusHeader} {place : Nat}

theorem headerField_moves {after : BusHeader} {next : Nat} (within : place ≤ data.length)
    (read : headerField header data place = .ok (after, next)) : place < next := by
  obtain ⟨_, aligned, padded, read⟩ := decoder_bind_eq_ok.mp read
  obtain ⟨forward, inside⟩ := (Reply.align_steady 8).moves within padded
  obtain ⟨code, coded, byte, read⟩ := decoder_bind_eq_ok.mp read
  obtain ⟨_, ⟨_, rfl⟩, stands⟩ := (Reply.byte_reads.accepts inside).mp byte
  have further := ((headerValue_steady header code).moves stands.next_le read).1
  have one : coded = aligned + 1 := stands.ends
  omega

theorem headerFields_zero {fieldsEnd : Nat} :
    headerFields fieldsEnd 0 header data place =
      if place < fieldsEnd then .error .unfinished else .ok (header, place) := by
  change (if place < fieldsEnd then throw _ else pure header : Reply.Read BusHeader) data place = _
  split <;> rfl

theorem headerFields_succ {fieldsEnd fuel : Nat} :
    headerFields fieldsEnd (fuel + 1) header data place =
      if place < fieldsEnd then do
        let (after, next) ← headerField header data place
        headerFields fieldsEnd fuel after data next
      else .ok (header, place) := by
  change (if place < fieldsEnd then headerField header >>= headerFields fieldsEnd fuel else pure header :
    Reply.Read BusHeader) data place = _
  split <;> rfl

variable {fault : BusFault}

/-- The loop ends within as many turns as there are bytes. -/
theorem headerFields_reported {fieldsEnd fuel : Nat} (within : place ≤ data.length)
    (enough : fieldsEnd ≤ place + fuel) (failed : headerFields fieldsEnd fuel header data place = .error fault) :
    fault.Reported := by
  induction fuel generalizing header place with
  | zero =>
      rw [headerFields_zero, if_neg (by omega)] at failed
      cases failed
  | succ fuel ih =>
      rw [headerFields_succ] at failed
      split at failed
      · cases read : headerField header data place with
        | error early =>
            rw [read] at failed
            cases failed
            exact (headerField_steady header).fails within read
        | ok result =>
            rw [read] at failed
            have forward : place < result.2 := headerField_moves within read
            exact ih ((headerField_steady header).moves within read).2 (by omega) failed
      · cases failed

theorem le_alignTo (offset : Nat) {size : Nat} (positive : 0 < size) : offset ≤ alignTo offset size := by
  unfold alignTo
  have whole := Nat.div_add_mod (offset + (size - 1)) size
  have part := Nat.mod_lt (offset + (size - 1)) positive
  rw [Nat.mul_comm]
  omega

theorem index_take {count offset : Nat} (early : offset < count) :
    index (bytes.take count) offset = index bytes offset := by
  rw [index, index, List.getElem?_take_of_lt early]

theorem indexU32_take {count offset : Nat} (early : offset + 3 < count) :
    indexU32 (bytes.take count) offset = indexU32 bytes offset := by
  unfold indexU32
  rw [index_take (by omega), index_take (by omega), index_take (by omega), index_take early]

theorem slice_eq {start finish : Nat} (ordered : start ≤ finish) (within : finish ≤ bytes.length) :
    slice bytes start finish = .ok ((bytes.take finish).drop start) :=
  if_pos ⟨ordered, within⟩

variable {message : List UInt8}

theorem fields_of_messageLength {total : Nat} (known : messageLength (message.take 16) = .ok total) :
    ∃ fields body, indexU32 message 12 = .ok fields ∧ indexU32 message 4 = .ok body ∧
      total = alignTo (16 + fields) 8 + body := by
  unfold messageLength at known
  obtain ⟨_, _, known⟩ := bind_eq_ok.mp known
  obtain ⟨_, _, known⟩ := bind_eq_ok.mp known
  split at known
  · cases known
  · obtain ⟨body, bodyRead, known⟩ := bind_eq_ok.mp known
    obtain ⟨fields, fieldsRead, known⟩ := bind_eq_ok.mp known
    rw [indexU32_take (by decide)] at bodyRead fieldsRead
    dsimp only at known
    split at known
    · cases known
      exact ⟨fields, body, fieldsRead, bodyRead, rfl⟩
    · cases known

/-- What is left of `parse_header` in a message whose fields and padding lie within it. -/
theorem parseHeader_eq {fields : Nat} (read : indexU32 message 12 = .ok fields)
    (within : alignTo (16 + fields) 8 ≤ message.length) : ∃ messageType, index message 1 = .ok messageType ∧
    parseHeader message = (do
      let (header, next) ← headerFields (16 + fields) (16 + fields)
        (freshHeader messageType (alignTo (16 + fields) 8)) (message.take (16 + fields)) 16
      if next = 16 + fields then
        if ((message.take (alignTo (16 + fields) 8)).drop (16 + fields)).any (· != 0) then
          .error (.malformed "the reply header padding is not zero")
        else .ok header
      else .error (.malformed "the reply carries trailing bytes")) := by
  have ends : 16 + fields ≤ alignTo (16 + fields) 8 := le_alignTo _ (by decide)
  have kind : ∃ messageType, index message 1 = .ok messageType := by
    unfold index
    rw [List.getElem?_eq_getElem (by omega)]
    exact ⟨_, rfl⟩
  obtain ⟨messageType, kind⟩ := kind
  refine ⟨messageType, kind, ?_⟩
  unfold parseHeader
  rw [read]
  change (slice message 0 (16 + fields) >>= _) = _
  rw [slice_eq (Nat.zero_le _) (by omega), kind, slice_eq ends within]
  change ((headerFields (16 + fields) (16 + fields) (freshHeader messageType (alignTo (16 + fields) 8)) >>= fun header =>
    Reply.finish >>= fun _ => pure header) (message.take (16 + fields)) 16 >>= _) = _
  change ((headerFields (16 + fields) (16 + fields) (freshHeader messageType (alignTo (16 + fields) 8))
    (message.take (16 + fields)) 16 >>= fun result => _) >>= _) = _
  cases headerFields (16 + fields) (16 + fields) (freshHeader messageType (alignTo (16 + fields) 8))
      (message.take (16 + fields)) 16 with
  | error fault => rfl
  | ok result =>
      obtain ⟨header, next⟩ := result
      have length : (message.take (16 + fields)).length = 16 + fields := List.length_take_of_le (by omega)
      change ((Reply.finish (message.take (16 + fields)) next >>= fun _ => _) >>= _) =
        (if next = 16 + fields then _ else _)
      unfold Reply.finish
      rw [length]
      split <;> rfl

theorem parseHeader_reported (known : messageLength (message.take 16) = .ok message.length)
    (failed : parseHeader message = .error fault) :
    fault.Reported := by
  obtain ⟨fields, body, read, _, total⟩ := fields_of_messageLength known
  have ends : 16 + fields ≤ alignTo (16 + fields) 8 := le_alignTo _ (by decide)
  obtain ⟨messageType, _, parsed⟩ := parseHeader_eq read (by omega)
  have inside : 16 ≤ (message.take (16 + fields)).length := by
    rw [List.length_take_of_le (by omega)]
    omega
  rw [parsed] at failed
  cases ran : headerFields (16 + fields) (16 + fields) (freshHeader messageType (alignTo (16 + fields) 8))
      (message.take (16 + fields)) 16 with
  | error early =>
      rw [ran] at failed
      cases failed
      exact headerFields_reported inside (by omega) ran
  | ok result =>
      rw [ran] at failed
      change (if result.2 = 16 + fields then _ else _) = _ at failed
      split at failed
      · split at failed
        · cases failed
          exact malformed_reported _
        · cases failed
      · cases failed
        exact malformed_reported _

/-! ## Unit rows -/

/-- One struct of the unit array, with the fields that the helper leaves out. -/
structure BusUnit where
  row : ManagerUnitRow
  description : String
  unitPath : String
  jobId : Nat
  jobType : String
  jobPath : String

namespace BusUnit

def texts (unit : BusUnit) : List String :=
  [unit.row.name, unit.description, unit.row.loadState, unit.row.activeState, unit.row.subState, unit.row.following,
    unit.unitPath, unit.jobType, unit.jobPath]

def Encodable (unit : BusUnit) : Prop := (∀ text ∈ unit.texts, Prefixed (2 ^ 32) text) ∧ unit.jobId < 2 ^ 32

/-- A struct starts on an 8-byte boundary. -/
def write (unit : BusUnit) : Writer UInt8 :=
  (pad 8).andThen <| (sized unit.row.name).andThen <| (sized unit.description).andThen <|
    (sized unit.row.loadState).andThen <| (sized unit.row.activeState).andThen <| (sized unit.row.subState).andThen <|
    (sized unit.row.following).andThen <| (sized unit.unitPath).andThen <| (word unit.jobId).andThen <|
    (sized unit.jobType).andThen <| sized unit.jobPath

end BusUnit

theorem unitRow_reads : Reads unitRow fun row writer =>
    ∃ unit : BusUnit, unit.Encodable ∧ row = unit.row ∧ writer = unit.write := by
  have text := Reply.string_reads
  have padding : Reads (Reply.align 8) fun _ writer => True ∧ writer = pad 8 := (Reply.align_reads 8).of_iff (by simp)
  have reads := padding.field fun _ => text.field fun name => text.field fun description => text.field fun loadState =>
    text.field fun activeState => text.field fun subState => text.field fun following => text.field fun unitPath =>
    Reply.u32_reads.field fun jobId => text.field fun jobType => text.field fun jobPath =>
    .pure (ManagerUnitRow.mk name loadState activeState subState following)
  refine reads.of_iff fun row writer => ?_
  constructor
  · rintro ⟨_, _, _, ⟨name, named, _, ⟨description, described, _, ⟨loadState, loaded, _, ⟨activeState, active, _,
      ⟨subState, sub, _, ⟨following, followed, _, ⟨unitPath, pathed, _, ⟨jobId, numbered, _, ⟨jobType, typed, _,
      ⟨jobPath, jobbed, _, ⟨rfl, rfl⟩, rfl⟩, rfl⟩, rfl⟩, rfl⟩, rfl⟩, rfl⟩, rfl⟩, rfl⟩, rfl⟩, rfl⟩, rfl⟩
    refine ⟨⟨⟨name, loadState, activeState, subState, following⟩, description, unitPath, jobId, jobType, jobPath⟩,
      ⟨?_, numbered⟩, rfl, ?_⟩
    · simp only [BusUnit.texts, List.forall_mem_cons]
      exact ⟨named, described, loaded, active, sub, followed, pathed, typed, jobbed, nofun⟩
    · simp [BusUnit.write]
  · rintro ⟨unit, ⟨texts, numbered⟩, rfl, rfl⟩
    simp only [BusUnit.texts, List.forall_mem_cons, List.not_mem_nil, false_implies, implies_true, and_true] at texts
    obtain ⟨named, described, loaded, active, sub, followed, pathed, typed, jobbed⟩ := texts
    exact ⟨(), trivial, _, ⟨_, named, _, ⟨_, described, _, ⟨_, loaded, _, ⟨_, active, _, ⟨_, sub, _, ⟨_, followed, _,
      ⟨_, pathed, _, ⟨_, numbered, _, ⟨_, typed, _, ⟨_, jobbed, _, ⟨rfl, rfl⟩, rfl⟩, rfl⟩, rfl⟩, rfl⟩, rfl⟩, rfl⟩, rfl⟩,
      rfl⟩, rfl⟩, rfl⟩, by simp [BusUnit.write]⟩

theorem unitRow_steady : Steady BusFault.Reported unitRow := by
  have text := Reply.string_steady
  exact (Reply.align_steady 8).bind fun _ _ => text.bind fun _ _ => text.bind fun _ _ => text.bind fun _ _ =>
    text.bind fun _ _ => text.bind fun _ _ => text.bind fun _ _ => text.bind fun _ _ => Reply.u32_steady.bind fun _ _ =>
    text.bind fun _ _ => text.bind fun _ _ => .pure _

theorem BusUnit.write_ne_nil (unit : BusUnit) (place : Nat) : unit.write place ≠ [] := by
  simp [write, Writer.andThen, sized, terminated, Writer.plain]

def writeUnits : List BusUnit → Writer UInt8
  | [] => .nothing
  | unit :: units => unit.write.andThen (writeUnits units)

theorem unitArray_zero {finish : Nat} : unitArray finish 0 data place =
    if place < finish then .error (.malformed "the unit array exceeds its bound") else .ok ([], place) := by
  change (if place < finish then throw _ else pure [] : Reply.Read (List ManagerUnitRow)) data place = _
  split <;> rfl

theorem unitArray_succ {finish room : Nat} : unitArray finish (room + 1) data place =
    if place < finish then do
      let (row, middle) ← unitRow data place
      let (rows, next) ← unitArray finish room data middle
      return (row :: rows, next)
    else .ok ([], place) := by
  change (if place < finish then unitRow >>= fun row => unitArray finish room >>= fun rows => pure (row :: rows)
    else pure [] : Reply.Read (List ManagerUnitRow)) data place = _
  split <;> rfl

variable {rows : List ManagerUnitRow}

theorem unitArray_eq_ok {finish room : Nat} (within : place ≤ data.length) :
    unitArray finish room data place = .ok (rows, finish) ↔
      ∃ units : List BusUnit, units.length ≤ room ∧ (∀ unit ∈ units, unit.Encodable) ∧
        rows = units.map BusUnit.row ∧ (writeUnits units).Stands data place finish := by
  induction room generalizing place rows with
  | zero =>
      rw [unitArray_zero]
      constructor
      · intro read
        split at read
        · cases read
        · cases read
          exact ⟨[], Nat.le_refl _, nofun, rfl, Writer.stands_nothing.mpr ⟨within, rfl⟩⟩
      · rintro ⟨units, none, _, rfl, stands⟩
        rw [List.length_eq_zero_iff.mp (Nat.le_zero.mp none)] at stands ⊢
        rw [(Writer.stands_nothing.mp stands).2, if_neg (Nat.lt_irrefl _)]
        rfl
  | succ room ih =>
      rw [unitArray_succ]
      constructor
      · intro read
        split at read
        · obtain ⟨⟨row, middle⟩, first, read⟩ := bind_eq_ok.mp read
          obtain ⟨⟨others, next⟩, rest, read⟩ := bind_eq_ok.mp read
          cases read
          obtain ⟨_, ⟨unit, encodable, rfl, rfl⟩, stands⟩ := (unitRow_reads.accepts within).mp first
          obtain ⟨units, fits, all, rfl, follows⟩ := (ih stands.next_le).mp rest
          exact ⟨unit :: units, Nat.succ_le_succ fits, List.forall_mem_cons.mpr ⟨encodable, all⟩, rfl,
            Writer.stands_andThen.mpr ⟨middle, stands, follows⟩⟩
        · cases read
          exact ⟨[], Nat.zero_le _, nofun, rfl, Writer.stands_nothing.mpr ⟨within, rfl⟩⟩
      · rintro ⟨units, fits, all, rfl, stands⟩
        cases units with
        | nil =>
            rw [(Writer.stands_nothing.mp stands).2, if_neg (Nat.lt_irrefl _)]
            rfl
        | cons unit units =>
            obtain ⟨encodable, others⟩ := List.forall_mem_cons.mp all
            obtain ⟨middle, starts, follows⟩ := Writer.stands_andThen.mp stands
            have positive := List.length_pos_iff.mpr (unit.write_ne_nil place)
            have forward : place < finish := by
              have further := follows.place_le
              rw [starts.ends] at further
              omega
            have first := (unitRow_reads.accepts within).mpr ⟨_, ⟨unit, encodable, rfl, rfl⟩, starts⟩
            have rest := (ih starts.next_le).mpr ⟨units, Nat.le_of_succ_le_succ fits, others, rfl, follows⟩
            rw [if_pos forward, first]
            change (unitArray finish room data middle >>= _) = _
            rw [rest]
            rfl

theorem unitArray_steady (finish room : Nat) : Steady BusFault.Reported (unitArray finish room) := by
  induction room with
  | zero =>
      refine .get fun place => ?_
      split
      · exact .throw (malformed_reported _)
      · exact .pure []
  | succ room ih =>
      refine .get fun place => ?_
      split
      · exact unitRow_steady.bind fun _ _ => ih.bind fun _ _ => .pure _
      · exact .pure []

/-! ## Replies -/

/-- The length of the array, padding to its first struct and the structs. -/
def encodeUnits (units : List BusUnit) : List UInt8 :=
  ((word (writeUnits units 8).length).andThen ((pad 8).andThen (writeUnits units))) 0

variable {reply : BusReply}

theorem BusReply.decode_reported {α : Type} {reader : Reply.Read α} (steady : Steady BusFault.Reported reader)
    (failed : reply.decode reader = .error fault) : fault.Reported := by
  unfold decode at failed
  cases read : reader reply.body 0 with
  | error early =>
      rw [read] at failed
      cases failed
      exact steady.fails (Nat.zero_le _) read
  | ok result =>
      rw [read] at failed
      cases failed

theorem singleString_reported (failed : singleString reply = .error fault) :
    fault.Reported := by
  unfold singleString at failed
  split at failed
  · cases failed
    exact malformed_reported _
  · exact BusReply.decode_reported
      (Reply.string_steady.bind fun _ _ => Reply.finish_steady.bind fun _ _ => .pure _) failed

theorem unitRows_reported (failed : unitRows reply = .error fault) :
    fault.Reported := by
  unfold unitRows at failed
  split at failed
  · cases failed
    exact malformed_reported _
  · refine BusReply.decode_reported (Reply.u32_steady.bind fun _ _ => (Reply.align_steady 8).bind fun _ _ =>
      .get fun _ => ?_) failed
    dsimp only
    split
    · exact .throw (malformed_reported _)
    · refine (unitArray_steady _ _).bind fun _ _ => .get fun _ => ?_
      split
      · exact .throw (malformed_reported _)
      · exact Reply.finish_steady.bind fun _ _ => .pure _

theorem unitList_eq_ok {body : List UInt8} {next : Nat} :
    unitList body.length body 0 = .ok (rows, next) ↔ next = body.length ∧ ∃ length < 2 ^ 32,
      ((word length).andThen (pad 8)).Stands body 0 8 ∧ 8 + length = body.length ∧
        unitArray body.length maxUnitRows body 8 = .ok (rows, body.length) := by
  constructor
  · intro read
    obtain ⟨length, four, lengthRead, read⟩ := decoder_bind_eq_ok.mp read
    obtain ⟨_, ⟨fits, rfl⟩, worded⟩ := (Reply.u32_reads.accepts (Nat.zero_le _)).mp lengthRead
    obtain ⟨_, eight, padRead, read⟩ := decoder_bind_eq_ok.mp read
    obtain ⟨_, rfl, padded⟩ := ((Reply.align_reads 8).accepts worded.next_le).mp padRead
    obtain rfl : four = 4 := worded.ends
    obtain rfl : eight = 8 := padded.ends
    change (if body.length < 8 + length then throw _ else unitArray (8 + length) maxUnitRows >>= _ :
      Reply.Read (List ManagerUnitRow)) body 8 = _ at read
    split at read
    · cases read
    · obtain ⟨others, now, arrayRead, read⟩ := decoder_bind_eq_ok.mp read
      change (if now ≠ 8 + length then throw _ else Reply.finish >>= fun _ => pure others :
        Reply.Read (List ManagerUnitRow)) body now = _ at read
      split at read
      · cases read
      · rename_i same
        obtain ⟨_, last, finished, read⟩ := decoder_bind_eq_ok.mp read
        unfold Reply.finish at finished
        split at finished
        · rename_i whole
          cases finished
          cases read
          have filled : 8 + length = body.length := (not_not.mp same).symm.trans whole
          rw [filled] at arrayRead
          exact ⟨whole, length, fits, Writer.stands_andThen.mpr ⟨4, worded, padded⟩, filled, whole ▸ arrayRead⟩
        · cases finished
  · rintro ⟨rfl, length, fits, stands, filled, arrayRead⟩
    obtain ⟨four, worded, padded⟩ := Writer.stands_andThen.mp stands
    obtain rfl : four = 4 := worded.ends
    refine decoder_bind_eq_ok.mpr ⟨length, 4, (Reply.u32_reads.accepts (Nat.zero_le _)).mpr ⟨_, ⟨fits, rfl⟩, worded⟩, ?_⟩
    refine decoder_bind_eq_ok.mpr ⟨(), 8, ((Reply.align_reads 8).accepts worded.next_le).mpr ⟨_, rfl, padded⟩, ?_⟩
    change (if body.length < 8 + length then throw _ else unitArray (8 + length) maxUnitRows >>= _ :
      Reply.Read (List ManagerUnitRow)) body 8 = _
    rw [filled, if_neg (Nat.lt_irrefl _)]
    refine decoder_bind_eq_ok.mpr ⟨rows, body.length, arrayRead, ?_⟩
    change (if body.length ≠ body.length then throw _ else Reply.finish >>= fun _ => pure rows :
      Reply.Read (List ManagerUnitRow)) body body.length = _
    rw [if_neg (not_not.mpr rfl)]
    exact decoder_bind_eq_ok.mpr ⟨(), body.length, if_pos rfl, rfl⟩

theorem unitRows_eq_ok {body : List UInt8} :
    unitRows ⟨unitListSignature, body⟩ = .ok rows ↔ ∃ units : List BusUnit, units.length ≤ maxUnitRows ∧
      (∀ unit ∈ units, unit.Encodable) ∧ (writeUnits units 8).length < 2 ^ 32 ∧ body = encodeUnits units ∧
      rows = units.map BusUnit.row := by
  have decoded : unitRows ⟨unitListSignature, body⟩ = .ok rows ↔
      ∃ next, unitList body.length body 0 = .ok (rows, next) := by
    rw [unitRows, if_neg (not_not.mpr rfl), BusReply.decode, bind_eq_ok]
    constructor
    · rintro ⟨⟨_, next⟩, read, ⟨⟩⟩
      exact ⟨next, read⟩
    · rintro ⟨next, read⟩
      exact ⟨(rows, next), read, rfl⟩
  rw [decoded]
  simp only [unitList_eq_ok, exists_eq_left]
  constructor
  · rintro ⟨length, fits, starts, filled, read⟩
    obtain ⟨units, few, all, rfl, stands⟩ := (unitArray_eq_ok starts.next_le).mp read
    have same : length = (writeUnits units 8).length := by
      have ends := stands.ends
      omega
    refine ⟨units, few, all, same ▸ fits, Writer.stands_whole.mp ?_, rfl⟩
    obtain ⟨four, worded, padded⟩ := Writer.stands_andThen.mp starts
    exact Writer.stands_andThen.mpr ⟨four, same ▸ worded, Writer.stands_andThen.mpr ⟨8, padded, stands⟩⟩
  · rintro ⟨units, few, all, fits, encoded, rfl⟩
    obtain ⟨four, worded, later⟩ := Writer.stands_andThen.mp (Writer.stands_whole.mpr encoded)
    obtain ⟨eight, padded, stands⟩ := Writer.stands_andThen.mp later
    obtain rfl : four = 4 := worded.ends
    obtain rfl : eight = 8 := padded.ends
    exact ⟨_, fits, Writer.stands_andThen.mpr ⟨4, worded, padded⟩, stands.ends.symm,
      (unitArray_eq_ok padded.next_le).mpr ⟨units, few, all, rfl, stands⟩⟩

/-- The reply decoder reports every fault on a complete message and never panics, and it
accepts a unit list exactly if that is the encoding of at most sixteen structs. -/
theorem bus_decoder_strict :
    (∀ message : List UInt8, messageLength (message.take 16) = .ok message.length →
      ∀ fault, parseHeader message = .error fault → fault.Reported) ∧
    (∀ (reply : BusReply) (fault : BusFault), singleString reply = .error fault ∨ unitRows reply = .error fault →
      fault.Reported) ∧
    ∀ (body : List UInt8) (rows : List ManagerUnitRow), unitRows ⟨unitListSignature, body⟩ = .ok rows ↔
      ∃ units : List BusUnit, units.length ≤ maxUnitRows ∧ (∀ unit ∈ units, unit.Encodable) ∧
        (writeUnits units 8).length < 2 ^ 32 ∧ body = encodeUnits units ∧ rows = units.map BusUnit.row :=
  ⟨fun _ known _ failed => parseHeader_reported known failed,
    fun _ _ failed => failed.elim singleString_reported unitRows_reported, fun _ _ => unitRows_eq_ok⟩

end ConstellationNq.Helper
