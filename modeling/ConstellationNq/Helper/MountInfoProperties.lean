import ConstellationNq.Helper.MountInfo
import ConstellationNq.Library.Chains

/-!
# The mount table, read back

A table in the kernel's format is read back record by record, except where a root or a
mount point is a lone hyphen. The parser returns a list for a text unless a slice behind
a backslash falls inside a character.
-/

set_option autoImplicit false

namespace ConstellationNq.Helper

open Library.Pattern Library.Chains Library.Text

/-! ## Bytes of a text -/

variable {character : Char}

theorem utf8EncodeChar_wide (wide : 128 ≤ character.toNat) :
    ∃ lead rest, String.utf8EncodeChar character = lead :: rest ∧ 192 ≤ lead.toNat ∧ ∀ byte ∈ rest, 128 ≤ byte.toNat := by
  have notAscii : ¬ character.val.toNat ≤ 127 := Nat.not_le.mpr wide
  have small {value : Nat} (fits : value < 256) : (UInt8.ofNat value).toNat = value := UInt8.toNat_ofNat_of_lt' fits
  rw [String.utf8EncodeChar, if_neg notAscii]
  split
  · refine ⟨_, _, rfl, ?_, ?_⟩
    · rw [small (by omega)]
      omega
    · simp only [List.forall_mem_singleton]
      rw [small (by omega)]
      omega
  · split
    · refine ⟨_, _, rfl, ?_, ?_⟩
      · rw [small (by omega)]
        omega
      · simp only [List.forall_mem_cons, List.not_mem_nil, false_implies, implies_true, and_true]
        rw [small (by omega), small (by omega)]
        omega
    · refine ⟨_, _, rfl, ?_, ?_⟩
      · rw [small (by omega)]
        omega
      · simp only [List.forall_mem_cons, List.not_mem_nil, false_implies, implies_true, and_true]
        rw [small (by omega), small (by omega), small (by omega)]
        omega

theorem utf8EncodeChar_starts (character : Char) :
    ∃ lead rest, String.utf8EncodeChar character = lead :: rest ∧ startsChar lead = true := by
  rcases Nat.lt_or_ge character.toNat 128 with ascii | wide
  · refine ⟨_, [], utf8EncodeChar_ascii ascii, ?_⟩
    have low : UInt8.ofNat character.toNat < 128 := by
      rw [UInt8.lt_iff_toNat_lt, UInt8.toNat_ofNat_of_lt' (show _ < 256 by omega)]
      exact ascii
    simp [startsChar, low]
  · obtain ⟨lead, rest, encoded, high, _⟩ := utf8EncodeChar_wide wide
    have high : 192 ≤ lead := UInt8.le_iff_toNat_le.mpr high
    exact ⟨lead, rest, encoded, by simp [startsChar, high]⟩

theorem encodeText_starts (text : List Char) : ((encodeText text).head?.map startsChar).getD true = true := by
  cases text with
  | nil => rfl
  | cons character rest =>
      obtain ⟨lead, tail, encoded, starts⟩ := utf8EncodeChar_starts character
      rw [encodeText_cons, encoded]
      exact starts

theorem backslash_notMem (other : character ≠ '\\') : backslash ∉ String.utf8EncodeChar character := by
  rcases Nat.lt_or_ge character.toNat 128 with ascii | wide
  · rw [utf8EncodeChar_ascii ascii, List.mem_singleton]
    intro same
    have code := congrArg UInt8.toNat same
    rw [UInt8.toNat_ofNat_of_lt' (show _ < 256 by omega)] at code
    exact other (Char.toNat_inj.mp code.symm)
  · obtain ⟨lead, rest, encoded, high, others⟩ := utf8EncodeChar_wide wide
    rw [encoded]
    intro member
    rcases List.mem_cons.mp member with rfl | member
    · exact absurd high (by decide)
    · exact absurd (others _ member) (by decide)

theorem fromUtf8Lossy_encodeText (text : List Char) : fromUtf8Lossy (encodeText text) = text := by
  induction text with
  | nil => rw [encodeText, List.flatMap_nil, fromUtf8Lossy]
  | cons character rest ih =>
      have decoded : (encodeText (character :: rest)).toByteArray.utf8DecodeChar? 0 = some character :=
        List.utf8DecodeChar?_utf8Encode_cons
      have size := String.length_utf8EncodeChar character
      obtain ⟨lead, tail, encoded, _⟩ := utf8EncodeChar_starts character
      rw [encodeText_cons, encoded] at decoded ⊢
      rw [encoded, List.length_cons] at size
      rw [List.cons_append, fromUtf8Lossy, ← List.cons_append, decoded]
      simp only
      rw [← size, Nat.add_sub_cancel, List.drop_left, ih]

/-- Bytes that are read without a replacement are those of the text. -/
theorem encodeText_fromUtf8Lossy (bytes : List UInt8) (plain : Char.ofNat 0xFFFD ∉ fromUtf8Lossy bytes) :
    encodeText (fromUtf8Lossy bytes) = bytes := by
  induction bytes using fromUtf8Lossy.induct with
  | case1 => rw [fromUtf8Lossy, encodeText, List.flatMap_nil]
  | case2 lead rest character decoded ih =>
      rw [fromUtf8Lossy, decoded] at plain ⊢
      rw [encodeText_cons, ih (List.not_mem_of_not_mem_cons plain)]
      obtain ⟨others, split⟩ := ByteArray.exists_of_utf8DecodeChar?_eq_some decoded
      have bytes : lead :: rest = String.utf8EncodeChar character ++ others.data.toList := by
        have same := congrArg (fun array => array.data.toList) split
        simpa using same
      have size := String.length_utf8EncodeChar character
      have positive := character.utf8Size_pos
      obtain ⟨before, size_eq⟩ : ∃ before, character.utf8Size = before + 1 := ⟨character.utf8Size - 1, by omega⟩
      have tail : rest.drop (character.utf8Size - 1) = others.data.toList := by
        have dropped := congrArg (List.drop character.utf8Size) bytes
        rw [List.drop_left' size, size_eq, List.drop_succ_cons] at dropped
        rw [size_eq, Nat.add_sub_cancel, dropped]
      rw [tail, bytes]
  | case3 lead rest broken ih =>
      rw [fromUtf8Lossy, broken] at plain
      exact absurd List.mem_cons_self plain

/-! ## Numbers -/

variable {number : Nat}

theorem digit_of_mem (member : character ∈ Nat.toDigits 10 number) :
    48 ≤ character.toNat ∧ character.toNat ≤ 57 := by
  have digit := Nat.isDigit_of_mem_toDigits (by decide) (by decide) member
  simpa [Char.isDigit, UInt32.le_iff_toNat_le] using digit

theorem notMem_toDigits (other : character.toNat < 48 ∨ 57 < character.toNat) :
    character ∉ Nat.toDigits 10 number := by
  intro member
  have digit := digit_of_mem member
  omega

theorem parseNumber_toDigits {bits : Nat} (fits : number < 2 ^ bits) :
    parseNumber bits (Nat.toDigits 10 number) = some number := by
  have ascii : ∀ character ∈ Nat.toDigits 10 number, character.toNat < 128 := by
    intro character member
    have digit := digit_of_mem member
    omega
  have codes : ∀ character ∈ Nat.toDigits 10 number, (UInt8.ofNat character.toNat).toNat = character.toNat := by
    intro character member
    exact UInt8.toNat_ofNat_of_lt' (Nat.lt_trans (ascii character member) (by decide))
  have unsigned : ((Nat.toDigits 10 number).map fun character => UInt8.ofNat character.toNat).head? ≠ some 43 := by
    intro signed
    obtain ⟨character, member, code⟩ := List.mem_map.mp (List.mem_of_mem_head? signed)
    have digit := digit_of_mem member
    have same := codes character member
    rw [code] at same
    change 43 = _ at same
    omega
  rw [parseNumber, encodeText_ascii ascii, fromStrRadix, stripPlus, if_neg unsigned]
  simp only [List.isEmpty_map, List.all_map, List.foldl_map]
  have value : (Nat.toDigits 10 number).foldl
      (fun value character => 10 * value + ((UInt8.ofNat character.toNat).toNat - 48)) 0 = number := by
    rw [List.foldl_ext _ _ 0 fun value character member => by rw [codes character member]]
    exact Nat.ofDigitChars_ten_toDigits
  rw [value, if_pos]
  simp only [Bool.and_eq_true, decide_eq_true_eq, List.all_eq_true]
  refine ⟨⟨by simp [Nat.toDigits_ne_nil], fun character member => ?_⟩, fits⟩
  have digit := digit_of_mem member
  simp only [Function.comp_apply, codes character member, Bool.and_eq_true, decide_eq_true_eq]
  omega

/-! ## Escapes -/

def escapedChars : List Char := [' ', '\t', '\n', '\\', '#']

def octalDigit (digit : Nat) : Char := Char.ofNat (48 + digit)

def escapeChar (character : Char) : List Char :=
  if character ∈ escapedChars then
    ['\\', octalDigit (character.toNat / 64), octalDigit (character.toNat / 8 % 8), octalDigit (character.toNat % 8)]
  else [character]

def escapeMountField (text : List Char) : List Char := text.flatMap escapeChar

variable {byte : UInt8}

theorem unescapeBytes_cons (other : byte ≠ backslash) (rest : List UInt8) :
    unescapeBytes (byte :: rest) = (unescapeBytes rest).map (byte :: ·) := by
  match rest with
  | first :: second :: third :: rest => rw [unescapeBytes, if_neg (by simpa using other)]
  | [first, second] => rw [unescapeBytes]; simp
  | [first] => rw [unescapeBytes]; simp
  | [] => rw [unescapeBytes]; simp

theorem unescapeBytes_append {plain : List UInt8} (none : backslash ∉ plain) (rest : List UInt8) :
    unescapeBytes (plain ++ rest) = (unescapeBytes rest).map (plain ++ ·) := by
  induction plain with
  | nil =>
      rw [List.nil_append]
      cases unescapeBytes rest <;> rfl
  | cons byte plain ih =>
      obtain ⟨other, none⟩ := List.ne_and_not_mem_of_not_mem_cons none
      rw [List.cons_append, unescapeBytes_cons (Ne.symm other), ih none]
      cases unescapeBytes rest <;> rfl

theorem escape_read (escaped : character ∈ escapedChars) :
    ∃ first second third, encodeText (escapeChar character) = [backslash, first, second, third] ∧
      startsChar first = true ∧ fromStrRadix 8 256 [first, second, third] = some character.toNat ∧ character.toNat < 128 := by
  simp only [escapedChars, List.mem_cons, List.not_mem_nil, or_false] at escaped
  rcases escaped with rfl | rfl | rfl | rfl | rfl <;> exact ⟨_, _, _, rfl, rfl, rfl, by decide⟩

theorem unescapeBytes_escapeChar (character : Char) (rest : List Char) :
    unescapeBytes (encodeText (escapeChar character) ++ encodeText rest) =
      (unescapeBytes (encodeText rest)).map (String.utf8EncodeChar character ++ ·) := by
  by_cases escaped : character ∈ escapedChars
  · obtain ⟨first, second, third, encoded, starts, read, ascii⟩ := escape_read escaped
    rw [encoded, utf8EncodeChar_ascii ascii]
    simp only [List.cons_append, List.nil_append]
    rw [unescapeBytes, if_pos (beq_self_eq_true backslash), if_pos (by rw [starts, encodeText_starts]; rfl), read]
  · have other : character ≠ '\\' := fun same => escaped (by simp [same, escapedChars])
    have plain : encodeText (escapeChar character) = String.utf8EncodeChar character := by
      rw [escapeChar, if_neg escaped, encodeText, List.flatMap_singleton]
    rw [plain, unescapeBytes_append (backslash_notMem other)]

theorem unescapeBytes_escape (text : List Char) :
    unescapeBytes (encodeText (escapeMountField text)) = .ok (encodeText text) := by
  induction text with
  | nil => rfl
  | cons character rest ih =>
      rw [escapeMountField, List.flatMap_cons, encodeText_append, unescapeBytes_escapeChar, ← escapeMountField, ih]
      rfl

theorem unescapeMountField_escape (text : String) :
    unescapeMountField (escapeMountField text.toList) = .ok text := by
  rw [unescapeMountField, unescapeBytes_escape, Except.map, fromUtf8Lossy_encodeText, String.ofList_toList]

variable {text : List Char}

theorem escape_plain (plain : ∀ character ∈ text, character ∉ escapedChars) :
    escapeMountField text = text := by
  induction text with
  | nil => rfl
  | cons character rest ih =>
      obtain ⟨first, others⟩ := List.forall_mem_cons.mp plain
      rw [escapeMountField, List.flatMap_cons, ← escapeMountField, ih others, escapeChar, if_neg first,
        List.singleton_append]

theorem notMem_escape (escaped : character ∈ escapedChars) (notBackslash : character ≠ '\\') (text : List Char) :
    character ∉ escapeMountField text := by
  intro member
  obtain ⟨original, _, member⟩ := List.mem_flatMap.mp member
  rw [escapeChar] at member
  split at member
  · rename_i special
    have digits : (escapedChars.all fun original => (escapeChar original).all fun character =>
        character == '\\' || !escapedChars.contains character) = true := by decide
    have digit := List.all_eq_true.mp (List.all_eq_true.mp digits original special) character
      (by rwa [escapeChar, if_pos special])
    simp [notBackslash, escaped] at digit
  · rename_i ordinary
    rw [List.mem_singleton] at member
    exact ordinary (member ▸ escaped)

theorem escape_eq_hyphen (same : escapeMountField text = ['-']) : text = ['-'] := by
  cases text with
  | nil => cases same
  | cons character rest =>
      rw [escapeMountField, List.flatMap_cons, escapeChar] at same
      split at same
      · cases same
      · obtain ⟨rfl, none⟩ := List.cons.inj same
        cases rest with
        | nil => rfl
        | cons next rest =>
            change (next :: rest).flatMap escapeChar = [] at none
            rw [List.flatMap_cons, escapeChar] at none
            split at none <;> cases none

/-! ## Lines -/

theorem textLines_append {line : List Char} (single : '\n' ∉ line) (read rest : List Char) :
    textLines read (line ++ '\n' :: rest) = stripReturn (read ++ line) :: textLines [] rest := by
  induction line generalizing read with
  | nil => rw [List.nil_append, textLines, if_pos rfl, List.append_nil]
  | cons character line ih =>
      obtain ⟨other, single⟩ := List.ne_and_not_mem_of_not_mem_cons single
      rw [List.cons_append, textLines, if_neg (Ne.symm other), ih single, List.append_assoc, List.singleton_append]

theorem stripReturn_blank (before last : List Char) :
    ∃ stripped, stripReturn (before ++ ' ' :: last) = before ++ ' ' :: stripped := by
  rw [stripReturn]
  split
  · rename_i returned
    obtain rfl | ⟨last, final, rfl⟩ := List.eq_nil_or_concat last
    · simp at returned
    · refine ⟨last, ?_⟩
      rw [List.concat_eq_append, ← List.cons_append, ← List.append_assoc, List.dropLast_concat]
  · exact ⟨last, rfl⟩

theorem notMem_intercalate {words : List (List Char)} (none : ∀ word ∈ words, character ∉ word)
    (other : character ≠ ' ') : character ∉ [' '].intercalate words := by
  induction words with
  | nil => simp
  | cons word words ih =>
      obtain ⟨first, others⟩ := List.forall_mem_cons.mp none
      cases words with
      | nil => rwa [List.intercalate_singleton]
      | cons next words =>
          rw [List.intercalate_cons_cons, List.mem_append, List.mem_append, List.mem_singleton]
          exact not_or.mpr ⟨not_or.mpr ⟨first, other⟩, ih others⟩

theorem firstAt_blank {word : List Char} (plain : ' ' ∉ word) (rest : List Char) :
    firstAt separator (word ++ ' ' :: rest) = (firstAt separator (' ' :: rest)).map (· + word.length) := by
  induction word with
  | nil => simp
  | cons character word ih =>
      obtain ⟨other, plain⟩ := List.ne_and_not_mem_of_not_mem_cons plain
      rw [List.cons_append, firstAt, if_neg (by simp [separator, List.isPrefixOf, other]), ih plain, Option.map_map]
      rfl

/-- The separator of a line is the first word that is a lone hyphen. -/
theorem firstAt_separator {words : List (List Char)} (nonempty : words ≠ [])
    (plain : ∀ word ∈ words, ' ' ∉ word ∧ word ≠ ['-']) (rest : List Char) :
    firstAt separator ([' '].intercalate words ++ separator ++ rest) = some ([' '].intercalate words).length := by
  induction words with
  | nil => exact absurd rfl nonempty
  | cons word words ih =>
      obtain ⟨⟨unspaced, _⟩, others⟩ := List.forall_mem_cons.mp plain
      cases words with
      | nil =>
          rw [List.intercalate_singleton, List.append_assoc]
          change firstAt separator (word ++ ' ' :: '-' :: ' ' :: rest) = _
          rw [firstAt_blank unspaced, firstAt, if_pos (by simp [separator, List.isPrefixOf])]
          simp
      | cons next words =>
          -- the next word is not a hyphen, so the blank before it does not start the separator
          obtain ⟨⟨nextUnspaced, nextOther⟩, _⟩ := List.forall_mem_cons.mp others
          have found := ih (List.cons_ne_nil _ _) others
          have follows : ∃ tail, [' '].intercalate (next :: words) ++ separator ++ rest = next ++ ' ' :: tail := by
            cases words with
            | nil => exact ⟨'-' :: ' ' :: rest, by simp [separator, List.intercalate_singleton]⟩
            | cons third words => exact ⟨[' '].intercalate (third :: words) ++ separator ++ rest, by simp [List.intercalate_cons_cons]⟩
          have late : ¬ ([' ', '-', ' '] : List Char).isPrefixOf
              (' ' :: ([' '].intercalate (next :: words) ++ separator ++ rest)) = true := by
            obtain ⟨tail, shape⟩ := follows
            rw [shape]
            cases next with
            | nil => simp [List.isPrefixOf]
            | cons character more =>
                cases more with
                | nil => simpa [List.isPrefixOf] using fun same => nextOther (by rw [same])
                | cons second more =>
                    simp only [List.mem_cons, not_or] at nextUnspaced
                    simp [List.isPrefixOf, nextUnspaced.2.1]
          rw [List.intercalate_cons_cons, List.append_assoc, List.append_assoc, List.append_assoc, List.singleton_append,
            firstAt_blank unspaced, firstAt, if_neg (by simpa [separator] using late), ← List.append_assoc, found]
          simp
          omega

/-! ## The kernel's table -/

/-- A record and what the kernel writes on its line besides. -/
structure MountLine where
  entry : MountEntry
  options : List Char
  optional : List (List Char)
  source : List Char
  superOptions : List Char

def MountLine.words (line : MountLine) : List (List Char) :=
  Nat.toDigits 10 line.entry.mountId.toNat :: Nat.toDigits 10 line.entry.parentId.toNat ::
  (Nat.toDigits 10 line.entry.major.toNat ++ ':' :: Nat.toDigits 10 line.entry.minor.toNat) ::
  escapeMountField line.entry.root.toList :: escapeMountField line.entry.mountPoint.toList :: line.options :: line.optional

def MountLine.render (line : MountLine) : List Char :=
  [' '].intercalate line.words ++ separator ++
    (escapeMountField line.entry.fsType.toList ++ ' ' :: (escapeMountField line.source ++ ' ' :: line.superOptions))

def renderTable (table : List MountLine) : String := String.ofList (table.flatMap fun line => line.render ++ ['\n'])

def PlainWord (word : List Char) : Prop := ' ' ∉ word ∧ '\n' ∉ word ∧ word ≠ ['-']

instance (word : List Char) : Decidable (PlainWord word) := inferInstanceAs (Decidable (_ ∧ _ ∧ _))

/-- What holds of the kernel's lines, whatever their roots and mount points are. -/
structure MountLine.Regular (line : MountLine) : Prop where
  options : PlainWord line.options
  optional : ∀ word ∈ line.optional, PlainWord word
  fsType : ∀ character ∈ line.entry.fsType.toList, character ∉ escapedChars
  superOptions : '\n' ∉ line.superOptions

section Records

variable {line : MountLine} (regular : line.Regular)

theorem plainWord_toDigits (number : Nat) : PlainWord (Nat.toDigits 10 number) := by
  refine ⟨notMem_toDigits (by decide), notMem_toDigits (by decide), fun hyphen => ?_⟩
  exact notMem_toDigits (.inl (by decide)) (hyphen ▸ List.mem_singleton_self '-' : '-' ∈ Nat.toDigits 10 number)

theorem plainWord_escape (other : text ≠ ['-']) : PlainWord (escapeMountField text) :=
  ⟨notMem_escape (by decide) (by decide) text, notMem_escape (by decide) (by decide) text,
    fun hyphen => other (escape_eq_hyphen hyphen)⟩

theorem plainWord_device (major minor : Nat) :
    PlainWord (Nat.toDigits 10 major ++ ':' :: Nat.toDigits 10 minor) := by
  obtain ⟨majorBlank, majorEnd, _⟩ := plainWord_toDigits major
  obtain ⟨minorBlank, minorEnd, _⟩ := plainWord_toDigits minor
  refine ⟨by simp [majorBlank, minorBlank], by simp [majorEnd, minorEnd], fun hyphen => ?_⟩
  have colon : ':' ∈ ['-'] := hyphen ▸ List.mem_append_right _ List.mem_cons_self
  exact absurd colon (by decide)

include regular

theorem MountLine.Regular.words (root : line.entry.root ≠ "-") (mountPoint : line.entry.mountPoint ≠ "-") :
    ∀ word ∈ line.words, PlainWord word := by
  have text {field : String} (other : field ≠ "-") : PlainWord (escapeMountField field.toList) :=
    plainWord_escape fun hyphen => other (String.toList_inj.mp hyphen)
  simp only [MountLine.words, List.forall_mem_cons]
  exact ⟨plainWord_toDigits _, plainWord_toDigits _, plainWord_device _ _, text root, text mountPoint,
    regular.options, regular.optional⟩

theorem MountLine.Regular.single (words : ∀ word ∈ line.words, PlainWord word) : '\n' ∉ line.render := by
  have left := notMem_intercalate (fun word member => (words word member).2.1) (by decide : '\n' ≠ ' ')
  have fsType : '\n' ∉ escapeMountField line.entry.fsType.toList := notMem_escape (by decide) (by decide) _
  have source : '\n' ∉ escapeMountField line.source := notMem_escape (by decide) (by decide) _
  simp [MountLine.render, separator, left, fsType, source, regular.superOptions]

theorem MountLine.Regular.mountFields (words : ∀ word ∈ line.words, PlainWord word) (rest : List Char) :
    mountFields ([' '].intercalate line.words ++ separator ++ (escapeMountField line.entry.fsType.toList ++ ' ' :: rest)) =
      some { mountId := line.entry.mountId, parentId := line.entry.parentId, major := line.entry.major,
             minor := line.entry.minor, root := escapeMountField line.entry.root.toList,
             mountPoint := escapeMountField line.entry.mountPoint.toList, fsType := line.entry.fsType.toList } := by
  have place : firstAt separator ([' '].intercalate line.words ++ separator ++
      (escapeMountField line.entry.fsType.toList ++ ' ' :: rest)) = some ([' '].intercalate line.words).length :=
    firstAt_separator (List.cons_ne_nil _ _) (fun word member => ⟨(words word member).1, (words word member).2.2⟩) _
  have left := List.splitOn_intercalate ' ' (fun word member => (words word member).1) (List.cons_ne_nil _ _)
  have device := @splitOnce_append _ _ (Nat.toDigits 10 line.entry.major.toNat)
    (Nat.toDigits 10 line.entry.minor.toNat) ':' (notMem_toDigits (by decide))
  have fsType : ((escapeMountField line.entry.fsType.toList ++ ' ' :: rest).splitOn ' ').head? =
      some line.entry.fsType.toList := by
    rw [List.splitOn_append_cons_self_of_not_mem (notMem_escape (by decide) (by decide) _), escape_plain regular.fsType]
    rfl
  have after : ([' '].intercalate line.words ++ separator ++ (escapeMountField line.entry.fsType.toList ++ ' ' :: rest)).drop
      (([' '].intercalate line.words).length + 3) = escapeMountField line.entry.fsType.toList ++ ' ' :: rest :=
    List.drop_left' (by simp [separator])
  rw [Helper.mountFields, place]
  simp only [Option.bind_eq_bind, Option.bind_some]
  rw [List.append_assoc, List.take_left, left, ← List.append_assoc, after, fsType]
  simp only [MountLine.words, device, Option.bind_some, parseNumber_toDigits (UInt64.toNat_lt _),
    parseNumber_toDigits (UInt32.toNat_lt _), UInt64.ofNat_toNat, UInt32.ofNat_toNat]
  rfl

theorem MountLine.Regular.parseMountLine (words : ∀ word ∈ line.words, PlainWord word) :
    parseMountLine (stripReturn line.render) = .ok (some line.entry) := by
  obtain ⟨stripped, shape⟩ := stripReturn_blank ([' '].intercalate line.words ++ separator ++
    (escapeMountField line.entry.fsType.toList ++ ' ' :: escapeMountField line.source)) line.superOptions
  have render : line.render = [' '].intercalate line.words ++ separator ++
      (escapeMountField line.entry.fsType.toList ++ ' ' :: escapeMountField line.source) ++ ' ' :: line.superOptions := by
    simp [MountLine.render]
  rw [render, shape, List.append_assoc _ _ (' ' :: stripped), List.append_assoc _ _ (' ' :: stripped), List.cons_append,
    Helper.parseMountLine, regular.mountFields words]
  simp only [MountFields.unescape]
  simp only [unescapeMountField_escape, String.ofList_toList]
  rfl

end Records

theorem parseMountinfo_render {table : List MountLine} (regular : ∀ line ∈ table, line.Regular)
    (words : ∀ line ∈ table, ∀ word ∈ line.words, PlainWord word) :
    parseMountinfo (renderTable table) = .ok (table.map MountLine.entry) := by
  rw [parseMountinfo, renderTable, String.toList_ofList]
  have lines : textLines [] (table.flatMap fun line => line.render ++ ['\n']) =
      table.map fun line => stripReturn line.render := by
    induction table with
    | nil => rfl
    | cons line table ih =>
        obtain ⟨first, others⟩ := List.forall_mem_cons.mp regular
        obtain ⟨firstWords, otherWords⟩ := List.forall_mem_cons.mp words
        rw [List.flatMap_cons, List.append_assoc, List.singleton_append, textLines_append (first.single firstWords),
          List.nil_append, ih others otherWords, List.map_cons]
  have entries : (table.map fun line => stripReturn line.render).mapM parseMountLine =
      Except.ok (table.map fun line => some line.entry) := by
    clear lines
    induction table with
    | nil => rfl
    | cons line table ih =>
        obtain ⟨first, others⟩ := List.forall_mem_cons.mp regular
        obtain ⟨firstWords, otherWords⟩ := List.forall_mem_cons.mp words
        rw [List.map_cons, List.mapM_cons, first.parseMountLine firstWords, ih others otherWords]
        rfl
  rw [lines, parseMountLines, entries, Except.map]
  change Except.ok (List.filterMap id _) = _
  simp [List.filterMap_map]

/-! ## Stacks -/

def MountedOn (below above : MountEntry) : Prop := above.parentId = below.mountId ∧ above.mountId ≠ below.mountId

instance (below above : MountEntry) : Decidable (MountedOn below above) := inferInstanceAs (Decidable (_ ∧ _))

theorem isTop_iff {candidates : List MountEntry} {entry : MountEntry} :
    isTop candidates entry = true ↔ Unfollowed MountedOn candidates entry := by
  simp only [isTop, Unfollowed, MountedOn, Bool.not_eq_true', List.any_eq_false, Bool.and_eq_true, bne_iff_ne, beq_iff_eq]
  exact forall₂_congr fun _ _ => not_congr and_comm

theorem selectMount_chained {entries : List MountEntry} {mountpoint : String} {chains : List (List MountEntry)}
    (distinct : (entries.map (·.mountId)).Nodup)
    (chained : Chained MountedOn (entries.filter (·.mountPoint == mountpoint)) chains) :
    (∀ chain, chains = [chain] → selectMount entries mountpoint = chain.getLast?) ∧
      (chains.length ≠ 1 → selectMount entries mountpoint = none) := by
  have candidates : (entries.filter (·.mountPoint == mountpoint)).Nodup := distinct.of_map.filter _
  have identified {one two : MountEntry} (first : one ∈ entries.filter (·.mountPoint == mountpoint))
      (second : two ∈ entries.filter (·.mountPoint == mountpoint)) (same : one.mountId = two.mountId) : one = two :=
    List.inj_on_of_nodup_map distinct (List.mem_of_mem_filter first) (List.mem_of_mem_filter second) same
  have tops := chained.tops candidates
    (fun one first two second above stands others => identified first second (stands.1.symm.trans others.1)) fun _ => isTop_iff
  have last {chain : List MountEntry} (member : chain ∈ chains) : ∃ top, chain.getLast? = some top :=
    ⟨_, List.getLast?_eq_some_getLast (chained.nonempty chain member)⟩
  rw [selectMount]
  constructor
  · rintro chain rfl
    obtain ⟨top, ends⟩ := last List.mem_cons_self
    rw [List.filterMap_cons_some ends, List.filterMap_nil, List.perm_singleton] at tops
    rw [tops, ends]
  · intro several
    have lengths := tops.length_eq
    rw [List.length_filterMap_eq_countP, List.countP_eq_length.mpr fun chain member => by
      obtain ⟨top, ends⟩ := last member
      rw [ends, Option.isSome_some]] at lengths
    split
    · rename_i single
      rw [single] at lengths
      exact absurd lengths.symm several
    · rfl

/-- A table in the kernel's format is read back unless a root or a mount point is a lone
hyphen, and the top of a stack does not depend on the order in which it is listed. -/
theorem mountTable_readBack :
    (∀ table : List MountLine,
      (∀ line ∈ table, line.Regular ∧ line.entry.root ≠ "-" ∧ line.entry.mountPoint ≠ "-") →
        parseMountinfo (renderTable table) = .ok (table.map MountLine.entry)) ∧
    ∀ (entries : List MountEntry) (mountpoint : String) (chains : List (List MountEntry)),
      (entries.map (·.mountId)).Nodup →
      Chained MountedOn (entries.filter (·.mountPoint == mountpoint)) chains →
        (∀ chain, chains = [chain] → selectMount entries mountpoint = chain.getLast?) ∧
        (2 ≤ chains.length → selectMount entries mountpoint = none) := by
  constructor
  · intro table lines
    exact parseMountinfo_render (fun line member => (lines line member).1) fun line member =>
      (lines line member).1.words (lines line member).2.1 (lines line member).2.2
  · intro entries mountpoint chains distinct chained
    obtain ⟨single, otherwise⟩ := selectMount_chained distinct chained
    exact ⟨single, fun several => otherwise (by omega)⟩

/-- A mount of a directory with a blank in its name, and a second one upon it. -/
def lowerMount : MountLine where
  entry := { mountId := 36, parentId := 35, major := 98, minor := 0, root := "/srv/my #1", mountPoint := "/mnt", fsType := "ext4" }
  options := "rw,relatime".toList
  optional := ["shared:1".toList]
  source := "/dev/sda 1".toList
  superOptions := "rw\r".toList

def upperMount (root : String) : MountLine where
  entry := { mountId := 37, parentId := 36, major := 0, minor := 44, root, mountPoint := "/mnt", fsType := "tmpfs" }
  options := "rw".toList
  optional := []
  source := "tmpfs".toList
  superOptions := "rw".toList

theorem lowerMount_regular : lowerMount.Regular where
  options := by decide
  optional := List.forall_mem_singleton.mpr (by decide)
  fsType := List.forall_iff_forall_mem.mp (by decide)
  superOptions := by decide

theorem upperMount_regular (root : String) : (upperMount root).Regular where
  options := (by decide : PlainWord "rw".toList)
  optional := List.forall_mem_nil _
  fsType := List.forall_iff_forall_mem.mp (by decide : List.Forall (· ∉ escapedChars) "tmpfs".toList)
  superOptions := (by decide : '\n' ∉ "rw".toList)

theorem mountTable_readBack_stack :
    parseMountinfo (renderTable [upperMount "/", lowerMount]) = .ok [(upperMount "/").entry, lowerMount.entry] ∧
      selectMount [(upperMount "/").entry, lowerMount.entry] "/mnt" = some (upperMount "/").entry := by
  have stack : Chained MountedOn ([(upperMount "/").entry, lowerMount.entry].filter (·.mountPoint == "/mnt"))
      [[lowerMount.entry, (upperMount "/").entry]] := by
    constructor
    case covers => exact List.Perm.swap _ _ []
    case nonempty => exact List.forall_mem_singleton.mpr (List.cons_ne_nil _ _)
    case linked => exact List.forall_mem_singleton.mpr (.cons_cons (by decide) (.singleton _))
    case separate =>
      rintro chain member head first other inside
      obtain rfl := List.mem_singleton.mp member
      obtain rfl := Option.some.inj first
      have apart : List.Forall (¬ MountedOn · lowerMount.entry) [(upperMount "/").entry, lowerMount.entry] := by decide
      exact List.forall_iff_forall_mem.mp apart other (List.mem_of_mem_filter inside)
  refine ⟨mountTable_readBack.1 [upperMount "/", lowerMount] ?_, (mountTable_readBack.2 _ "/mnt" _ (by decide) stack).1 _ rfl⟩
  simp only [List.forall_mem_cons, List.not_mem_nil, false_implies, implies_true, and_true]
  exact ⟨⟨upperMount_regular "/", by decide, by decide⟩, lowerMount_regular, by decide, by decide⟩

/-- A mount of a type whose name the kernel escapes. -/
def fuseMount : MountLine := { upperMount "/" with entry := { (upperMount "/").entry with fsType := "fuse.my fs" } }

/-- A lone hyphen as a root reads as the end of the fields, and the escapes of a type are
not undone. -/
theorem parseMountinfo_misread :
    ((upperMount "-").Regular ∧ parseMountinfo (renderTable [upperMount "-"]) ≠ .ok [(upperMount "-").entry]) ∧
      parseMountinfo (renderTable [fuseMount]) = .ok [{ fuseMount.entry with fsType := "fuse.my\\040fs" }] := by
  refine ⟨⟨upperMount_regular "-", ?_⟩, ?_⟩
  · rw [parseMountinfo, renderTable, String.toList_ofList]
    intro parsed
    cases (show (.ok [] : Except Panic (List MountEntry)) = _ from parsed)
  · have lines : textLines [] ([fuseMount].flatMap fun line => line.render ++ ['\n']) = [fuseMount.render] := by
      decide +kernel
    have fields : mountFields fuseMount.render = some {
        mountId := 37, parentId := 36, major := 0, minor := 44, root := escapeMountField "/".toList
        mountPoint := escapeMountField "/mnt".toList, fsType := "fuse.my\\040fs".toList } := by
      decide +kernel
    rw [parseMountinfo, renderTable, String.toList_ofList, lines, parseMountLines, List.mapM_cons, parseMountLine, fields]
    dsimp only
    rw [MountFields.unescape, unescapeMountField_escape, unescapeMountField_escape]
    rfl

/-! ## Where the slices fall -/

/-- The slice behind every backslash with three bytes after it ends at a character. -/
def Aligned (bytes : List UInt8) : Prop :=
  ∀ index, bytes[index]? = some backslash → index + 4 ≤ bytes.length → isCharBoundary bytes (index + 4) = true

variable {rest : List UInt8}

theorem aligned_cons :
    Aligned (byte :: rest) ↔
      (byte = backslash → 3 ≤ rest.length → isCharBoundary (byte :: rest) 4 = true) ∧ Aligned rest := by
  have shift (index : Nat) : isCharBoundary (byte :: rest) (index + 1 + 4) = isCharBoundary rest (index + 4) := by
    simp [isCharBoundary]
  constructor
  · intro aligned
    refine ⟨fun same long => aligned 0 (by simp [same]) (by simpa using long), fun index found within => ?_⟩
    rw [← shift]
    exact aligned (index + 1) (by simpa using found) (by simpa using within)
  · rintro ⟨first, others⟩ index found within
    cases index with
    | zero => exact first (by simpa using found) (by simpa using within)
    | succ index =>
        rw [shift]
        exact others index (by simpa using found) (by simpa using within)

theorem aligned_cons_other (other : byte ≠ backslash) :
    Aligned (byte :: rest) ↔ Aligned rest := by
  rw [aligned_cons]
  exact and_iff_right fun same => absurd same other

theorem isCharBoundary_four (byte first second third : UInt8) (rest : List UInt8) :
    isCharBoundary (byte :: first :: second :: third :: rest) 4 = (rest.head?.map startsChar).getD true := by
  cases rest <;> simp [isCharBoundary]

/-- What stands behind a backslash of a text starts a character. -/
def Followed (bytes : List UInt8) : Prop :=
  ∀ before next after, bytes = before ++ backslash :: next :: after → startsChar next = true

theorem Followed.tail (followed : Followed (byte :: rest)) : Followed rest :=
  fun before next after shape => followed (byte :: before) next after (by rw [shape, List.cons_append])

theorem followed_encodeText (text : List Char) : Followed (encodeText text) := by
  induction text with
  | nil =>
      intro before next after shape
      simp [encodeText] at shape
  | cons character rest ih =>
      intro before next after shape
      rw [encodeText_cons] at shape
      rcases List.append_eq_append_iff.mp shape with ⟨middle, rfl, later⟩ | ⟨middle, sooner, later⟩
      · exact ih middle next after later
      · -- the backslash is the first character
        cases middle with
        | nil => exact ih [] next after later.symm
        | cons byte middle =>
            obtain ⟨rfl, tail⟩ := List.cons.inj later
            by_cases same : character = '\\'
            · subst same
              have ends : before = [] ∧ middle = [] := by
                have lengths := congrArg List.length sooner
                simp [String.utf8EncodeChar] at lengths
                constructor <;> apply List.length_eq_zero_iff.mp <;> omega
              have starts := encodeText_starts rest
              rw [ends.2] at tail
              rwa [← show next :: after = encodeText rest from tail] at starts
            · exact absurd (by rw [sooner]; simp) (backslash_notMem same)

theorem mem_of_fromStrRadix {radix bound value : Nat} {source : List UInt8}
    (read : fromStrRadix radix bound source = some value) (member : byte ∈ source) :
    byte = 43 ∨ byte.toNat < 48 + radix := by
  obtain ⟨passes, _⟩ := Option.ite_none_right_eq_some.mp read
  simp only [Bool.and_eq_true, List.all_eq_true, decide_eq_true_eq] at passes
  have digits : ∀ byte ∈ stripPlus source, byte.toNat < 48 + radix := fun byte member => (passes.1.2 byte member).2
  rw [stripPlus] at digits
  split at digits
  · rename_i signed
    obtain ⟨rest, rfl⟩ := List.head?_eq_some_iff.mp signed
    exact (List.mem_cons.mp member).imp_right (digits byte)
  · exact .inr (digits byte member)

theorem unescapeBytes_returns {bytes : List UInt8} (followed : Followed bytes) :
    (∃ result, unescapeBytes bytes = .ok result) ↔ Aligned bytes := by
  have mapped (inner : Except Panic (List UInt8)) (write : List UInt8 → List UInt8) :
      (∃ result, inner.map write = .ok result) ↔ ∃ result, inner = .ok result := by
    cases inner <;> simp [Except.map]
  induction bytes using unescapeBytes.induct with
  | case1 byte first second third rest same bounds value read ih =>
      rw [unescapeBytes, if_pos same, if_pos bounds, read]
      have plain {digit : UInt8} (member : digit ∈ [first, second, third]) : digit ≠ backslash := by
        rintro rfl
        rcases mem_of_fromStrRadix read member with sign | digit
        · exact absurd sign (by decide)
        · exact absurd digit (by decide)
      have boundary := (Bool.and_eq_true_iff.mp bounds).2
      refine (mapped _ _).trans ((ih followed.tail.tail.tail.tail).trans ?_)
      rw [aligned_cons, aligned_cons_other (plain (by simp)),
        aligned_cons_other (plain (by simp)), aligned_cons_other (plain (by simp)), isCharBoundary_four]
      exact (and_iff_right fun _ _ => boundary).symm
  | case2 byte first second third rest same bounds unread ih =>
      rw [unescapeBytes, if_pos same, if_pos bounds, unread]
      have boundary := (Bool.and_eq_true_iff.mp bounds).2
      refine (mapped _ _).trans ((ih followed.tail).trans ?_)
      rw [@aligned_cons byte, isCharBoundary_four]
      exact (and_iff_right fun _ _ => boundary).symm
  | case3 byte first second third rest same bounds =>
      rw [unescapeBytes, if_pos same, if_neg bounds]
      have starts := followed [] first (second :: third :: rest) (by rw [eq_of_beq same, List.nil_append])
      have aligned : ¬ Aligned (byte :: first :: second :: third :: rest) := by
        intro aligned
        have boundary := (aligned_cons.mp aligned).1 (eq_of_beq same) (by simp)
        rw [isCharBoundary_four] at boundary
        exact bounds (by rw [starts, boundary]; rfl)
      exact iff_of_false (by simp) aligned
  | case4 byte first second third rest other ih =>
      have other : byte ≠ backslash := by simpa using other
      rw [unescapeBytes_cons other, aligned_cons_other other]
      exact (mapped _ _).trans (ih followed.tail)
  | case5 byte rest short ih =>
      have unlong : rest.length < 3 := by
        match rest, short with
        | [], _ | [_], _ | [_, _], _ => simp
        | first :: second :: third :: rest, short => exact (short first second third rest rfl).elim
      rw [unescapeBytes, aligned_cons]
      · refine (mapped _ _).trans ((ih followed.tail).trans ?_)
        exact (and_iff_right fun _ long => absurd long (Nat.not_le.mpr unlong)).symm
      · exact short
  | case6 => simp [unescapeBytes, Aligned]

theorem unescapeMountField_returns (field : List Char) :
    (∃ result, unescapeMountField field = .ok result) ↔ Aligned (encodeText field) := by
  rw [← unescapeBytes_returns (followed_encodeText field), unescapeMountField]
  cases unescapeBytes (encodeText field) <;> simp [Except.map]

theorem parseMountLine_returns (line : List Char) :
    (∃ entry, parseMountLine line = .ok entry) ↔
      ∀ fields, mountFields line = some fields →
        Aligned (encodeText fields.root) ∧ Aligned (encodeText fields.mountPoint) := by
  rw [parseMountLine]
  cases mountFields line with
  | none => simp
  | some fields =>
      simp only [Option.some.injEq, forall_eq', ← unescapeMountField_returns, MountFields.unescape]
      cases unescapeMountField fields.root with
      | error panic => simp [Except.map, bind, Except.bind]
      | ok root => cases unescapeMountField fields.mountPoint <;> simp [Except.map, bind, Except.bind, pure, Except.pure]

theorem parseMountLines_cons (line : List Char) (lines : List (List Char)) :
    parseMountLines (line :: lines) =
      (do return (← parseMountLine line).toList ++ (← parseMountLines lines)) := by
  simp only [parseMountLines, List.mapM_cons]
  cases parseMountLine line with
  | error panic => rfl
  | ok entry =>
      cases lines.mapM parseMountLine with
      | error panic => rfl
      | ok entries => cases entry <;> rfl

theorem parseMountLines_returns {lines : List (List Char)} :
    (∃ entries, parseMountLines lines = .ok entries) ↔ ∀ line ∈ lines, ∃ entry, parseMountLine line = .ok entry := by
  induction lines with
  | nil => exact iff_of_true ⟨[], rfl⟩ (by simp)
  | cons line lines ih =>
      rw [parseMountLines_cons, List.forall_mem_cons, ← ih]
      cases parseMountLine line with
      | error panic => exact iff_of_false (by rintro ⟨_, ran⟩; cases ran) (by rintro ⟨⟨_, ran⟩, _⟩; cases ran)
      | ok entry =>
          cases parseMountLines lines with
          | error panic => exact iff_of_false (by rintro ⟨_, ran⟩; cases ran) (by rintro ⟨_, _, ran⟩; cases ran)
          | ok entries => exact iff_of_true ⟨_, rfl⟩ ⟨⟨_, rfl⟩, _, rfl⟩

theorem parseMountLines_malformed {line : List Char} (malformed : mountFields line = none)
    (before after : List (List Char)) :
    parseMountLines (before ++ line :: after) = parseMountLines (before ++ after) := by
  induction before with
  | nil =>
      rw [List.nil_append, List.nil_append, parseMountLines_cons, parseMountLine, malformed]
      cases parseMountLines after <;> rfl
  | cons first before ih => rw [List.cons_append, List.cons_append, parseMountLines_cons, parseMountLines_cons, ih]

/-- The parser returns a list, and a malformed line removes only its own entry, exactly
when no slice behind a backslash ends inside a character. -/
theorem parseMountinfo_total_iff (text : String) :
    (∃ entries, parseMountinfo text = .ok entries ∧
      ∀ before line after, textLines [] text.toList = before ++ line :: after → mountFields line = none →
        parseMountLines (before ++ after) = .ok entries) ↔
    ∀ line ∈ textLines [] text.toList, ∀ fields, mountFields line = some fields →
      Aligned (encodeText fields.root) ∧ Aligned (encodeText fields.mountPoint) := by
  constructor
  · rintro ⟨entries, parsed, _⟩ line member
    rw [← parseMountLine_returns]
    exact parseMountLines_returns.mp ⟨entries, parsed⟩ line member
  · intro aligned
    obtain ⟨entries, parsed⟩ := parseMountLines_returns.mpr fun line member =>
      (parseMountLine_returns line).mpr (aligned line member)
    refine ⟨entries, parsed, fun before line after split malformed => ?_⟩
    rw [split, parseMountLines_malformed malformed] at parsed
    exact parsed

/-- A backslash before two characters of two bytes each. -/
theorem parseMountinfo_insideCharacter :
    ¬ ∃ entries, parseMountinfo "36 35 98:0 /\\éé / rw - ext4 s o" = .ok entries := by
  rintro ⟨entries, parsed⟩
  have panics : parseMountinfo "36 35 98:0 /\\éé / rw - ext4 s o" = .error .notCharBoundary := by rfl
  rw [panics] at parsed
  cases parsed

end ConstellationNq.Helper
