import ConstellationNq.Core.OperationalQualification
import Mathlib.Data.List.TakeWhile

/-!
# The field that a search takes from a record

The scan behind the text of a key takes exactly the bytes of the object it begins with,
and on any bytes it ends without its counter of braces running below zero.
-/

set_option autoImplicit false

namespace ConstellationNq.Core

open Library.JsonSyntax Library.Loop

/-! ## Faults -/

def NeverPanics {α : Type} (run : Except Fault α) : Prop := ∀ message, run ≠ .error (.panicked message)

namespace NeverPanics

variable {α β : Type} {run : Except Fault α}

theorem ok (value : α) : NeverPanics (.ok value) := nofun

theorem refused (failure : OperationalQualificationError) : NeverPanics (α := α) (.error (.refused failure)) := nofun

theorem map (change : α → β) (safe : NeverPanics run) : NeverPanics (run.map change) := by
  cases run with
  | error fault => exact fun message same => safe message (congrArg Except.error (Except.error.inj same))
  | ok value => exact ok _

end NeverPanics

theorem scanObject_neverPanics (bytes : List UInt8) (depth : Nat) (quoted escaped : Bool) :
    NeverPanics (scanObject (depth + 1) quoted escaped bytes) := by
  induction bytes generalizing depth quoted escaped with
  | nil => cases quoted <;> cases escaped <;> exact .ok none
  | cons byte bytes ih =>
      have further (depth : Nat) (quoted escaped : Bool) :
          NeverPanics ((scanObject (depth + 1) quoted escaped bytes).map (Option.map (byte :: ·))) :=
        (ih depth quoted escaped).map _
      cases quoted with
      | true =>
          cases escaped with
          | true => exact further depth true false
          | false =>
              rw [scanObject]
              split
              · exact further depth true true
              · split
                · exact further depth false false
                · exact further depth true false
      | false =>
          rw [scanObject.eq_def]
          dsimp only
          split
          · exact further depth true escaped
          · split
            · exact further (depth + 1) false escaped
            · split
              · cases depth with
                | zero => exact .ok _
                | succ depth => exact further depth false escaped
              · exact further depth false escaped

theorem extractObjectField_neverPanics (bytes : List UInt8) (key : String) :
    NeverPanics (extractObjectField bytes key) := by
  unfold extractObjectField
  split
  · exact .refused _
  · next found _ =>
      split
      · exact .refused _
      · next opens =>
          have scanned : NeverPanics (scanObject 0 false false found) := by
            cases found with
            | nil => exact absurd (by simp) opens
            | cons byte rest =>
                obtain rfl : byte = openBrace := by simpa using opens
                exact (scanObject_neverPanics rest 0 false false).map _
          split
          · next fault same => exact fun message equal => scanned message (same.trans (congrArg _ (Except.error.inj equal)))
          · exact .refused _
          · exact .ok _

/-! ## Bytes that the scan passes -/

theorem Blanks.ne_of_visible (blanks : Blanks) {byte : UInt8} (visible : isBlank byte = false) :
    ∀ blank ∈ blanks.val, blank ≠ byte := by
  rintro blank member rfl
  rw [List.all_eq_true.mp blanks.property blank member] at visible
  cases visible

/-! ## The scan -/

/-- The result of a scan after some more bytes. -/
def scannedAfter (bytes : List UInt8) (result : Except Fault (Option (List UInt8))) :
    Except Fault (Option (List UInt8)) :=
  result.map (Option.map (bytes ++ ·))

theorem scannedAfter_append (bytes more : List UInt8) (result : Except Fault (Option (List UInt8))) :
    scannedAfter bytes (scannedAfter more result) = scannedAfter (bytes ++ more) result := by
  rcases result with fault | _ | range <;> simp [scannedAfter, Except.map]

/-- The scan at the brace that closes an object inside `depth` others. -/
def scannedTo (depth : Nat) (text rest : List UInt8) : Except Fault (Option (List UInt8)) :=
  if depth = 0 then .ok (some text) else scannedAfter text (scanObject depth false false rest)

theorem scannedAfter_to (bytes : List UInt8) (depth : Nat) (text rest : List UInt8) :
    scannedAfter bytes (scannedTo depth text rest) = scannedTo depth (bytes ++ text) rest := by
  unfold scannedTo
  split
  · rfl
  · exact scannedAfter_append bytes text _

def IsPassed (byte : UInt8) : Prop := byte ≠ quote ∧ byte ≠ openBrace ∧ byte ≠ closeBrace

theorem scanObject_cons {byte : UInt8} (passed : IsPassed byte) (depth : Nat) (bytes : List UInt8) :
    scanObject depth false false (byte :: bytes) = scannedAfter [byte] (scanObject depth false false bytes) := by
  rw [scanObject.eq_def]
  simp only [passed.1, passed.2.1, passed.2.2, if_false]
  rfl

theorem scanObject_append {skipped : List UInt8} (passed : ∀ byte ∈ skipped, IsPassed byte) (depth : Nat)
    (rest : List UInt8) :
    scanObject depth false false (skipped ++ rest) = scannedAfter skipped (scanObject depth false false rest) := by
  induction skipped with
  | nil =>
      rw [List.nil_append]
      rcases scanObject depth false false rest with fault | _ | range <;> rfl
  | cons byte skipped ih =>
      rw [List.cons_append, scanObject_cons (passed byte List.mem_cons_self),
        ih fun later member => passed later (List.mem_cons_of_mem _ member), scannedAfter_append]
      rfl

theorem scanObject_spelling (pieces : List Piece) (depth : Nat) (rest : List UInt8) :
    scanObject depth true false (spelling pieces ++ quote :: rest) =
      scannedAfter (spelling pieces ++ [quote]) (scanObject depth false false rest) := by
  induction pieces with
  | nil =>
      change scanObject depth true false (quote :: rest) = _
      rw [scanObject]
      simp only [show quote ≠ backslash by decide, if_false, if_true]
      rfl
  | cons piece pieces ih =>
      cases piece with
      | plain byte valid =>
          obtain ⟨notQuote, notBackslash⟩ := isOrdinary_iff valid
          change scanObject depth true false (byte :: (spelling pieces ++ quote :: rest)) = _
          rw [scanObject]
          simp only [notQuote, notBackslash, if_false, ih]
          exact scannedAfter_append [byte] _ _
      | escape byte =>
          change scanObject depth true false (backslash :: byte :: (spelling pieces ++ quote :: rest)) = _
          rw [scanObject]
          simp only [if_true]
          rw [scanObject, ih]
          exact (congrArg (scannedAfter [backslash]) (scannedAfter_append [byte] _ _)).trans
            (scannedAfter_append [backslash] _ _)

theorem scanObject_string (pieces : List Piece) (depth : Nat) (rest : List UInt8) :
    scanObject depth false false (quote :: (spelling pieces ++ quote :: rest)) =
      scannedAfter (quote :: (spelling pieces ++ [quote])) (scanObject depth false false rest) := by
  rw [scanObject.eq_def]
  simp only [if_true, scanObject_spelling]
  exact scannedAfter_append [quote] _ _

theorem Blanks.passed (blanks : Blanks) : ∀ byte ∈ blanks.val, IsPassed byte := fun byte member =>
  ⟨Blanks.ne_of_visible blanks (by decide) byte member, Blanks.ne_of_visible blanks (by decide) byte member,
    Blanks.ne_of_visible blanks (by decide) byte member⟩

theorem Separator.passed (separator : Separator) : ∀ byte ∈ separator.text, IsPassed byte := by
  intro byte member
  cases separator with
  | opening blanks => exact Blanks.passed blanks byte member
  | comma before after =>
      rw [Separator.text, List.mem_append, List.mem_cons] at member
      rcases member with early | rfl | late
      · exact Blanks.passed before byte early
      · exact ⟨by decide, by decide, by decide⟩
      · exact Blanks.passed after byte late

theorem Word.passed (word : Word) : ∀ byte ∈ word.val, IsPassed byte := by
  intro byte member
  have letter := List.all_eq_true.mp (Bool.and_eq_true_iff.mp word.property).1 byte member
  refine ⟨?_, ?_, ?_⟩ <;> rintro rfl <;> exact absurd letter (by decide)

mutual

/-- Inside an object the scan passes every value. -/
theorem tree_scanned : ∀ (tree : Tree) (depth : Nat) (rest : List UInt8),
    scanObject (depth + 1) false false (tree.text ++ rest) =
      scannedAfter tree.text (scanObject (depth + 1) false false rest)
  | .word word, depth, rest => by
      rw [Tree.text]
      exact scanObject_append (Word.passed word) _ _
  | .string pieces, depth, rest => by
      rw [Tree.text, List.cons_append, List.append_assoc, List.singleton_append]
      exact scanObject_string pieces _ _
  | .array items, depth, rest => by
      rw [Tree.text, List.cons_append, scanObject_cons ⟨by decide, by decide, by decide⟩,
        items_scanned items depth rest]
      exact scannedAfter_append [openBracket] _ _
  | .object members, depth, rest => by
      have opened : scanObject (depth + 1) false false (openBrace :: (members.text ++ rest)) =
          scannedAfter [openBrace] (scanObject (depth + 2) false false (members.text ++ rest)) := by
        rw [scanObject.eq_def]
        simp only [show openBrace ≠ quote by decide, if_false, if_true]
        rfl
      rw [Tree.text, List.cons_append, opened, members_scanned members (depth + 1) rest, scannedAfter_to]
      rfl

theorem items_scanned : ∀ (items : Items) (depth : Nat) (rest : List UInt8),
    scanObject (depth + 1) false false (items.text ++ rest) =
      scannedAfter items.text (scanObject (depth + 1) false false rest)
  | .done blanks, depth, rest => by
      rw [Items.text, List.append_assoc, scanObject_append (Blanks.passed blanks), List.singleton_append,
        scanObject_cons ⟨by decide, by decide, by decide⟩]
      exact scannedAfter_append _ _ _
  | .item separator value others, depth, rest => by
      rw [Items.text, List.append_assoc, scanObject_append (Separator.passed separator), List.append_assoc,
        tree_scanned value depth, items_scanned others depth rest, scannedAfter_append, scannedAfter_append,
        List.append_assoc]

theorem members_scanned : ∀ (members : Members) (depth : Nat) (rest : List UInt8),
    scanObject (depth + 1) false false (members.text ++ rest) = scannedTo depth members.text rest
  | .done blanks, depth, rest => by
      have closed : scanObject (depth + 1) false false (closeBrace :: rest) = scannedTo depth [closeBrace] rest := by
        rw [scanObject.eq_def]
        simp only [show closeBrace ≠ quote by decide, show closeBrace ≠ openBrace by decide, if_false, if_true]
        cases depth <;> rfl
      rw [Members.text, List.append_assoc, scanObject_append (Blanks.passed blanks), List.singleton_append, closed,
        scannedAfter_to]
  | .member separator key beforeColon afterColon value others, depth, rest => by
      have inside : scanObject (depth + 1) false false (value.text ++ (others.text ++ rest)) =
          scannedTo depth (value.text ++ others.text) rest := by
        rw [tree_scanned value depth, members_scanned others depth rest, scannedAfter_to]
      have text : (Members.member separator key beforeColon afterColon value others).text ++ rest =
          separator.text ++ quote :: (spelling key ++ quote :: (beforeColon.val ++ colon :: (afterColon.val ++
            (value.text ++ (others.text ++ rest))))) := by simp [Members.text]
      rw [text, scanObject_append (Separator.passed separator), scanObject_string,
        scanObject_append (Blanks.passed beforeColon), scanObject_cons ⟨by decide, by decide, by decide⟩,
        scanObject_append (Blanks.passed afterColon), inside]
      simp only [scannedAfter_to, Members.text]
      simp

end

theorem scanObject_object (members : Members) (rest : List UInt8) :
    scanObject 0 false false ((Tree.object members).text ++ rest) = .ok (some (Tree.object members).text) := by
  have opened : scanObject 0 false false (openBrace :: (members.text ++ rest)) =
      scannedAfter [openBrace] (scanObject 1 false false (members.text ++ rest)) := by
    rw [scanObject.eq_def]
    simp only [show openBrace ≠ quote by decide, if_false, if_true]
    rfl
  rw [Tree.text, List.cons_append, opened, members_scanned members 0 rest]
  rfl

/-! ## Any bytes -/

theorem afterFirst_place {sought before : List UInt8} (nonempty : sought ≠ [])
    (first : ∀ place < before.length, ¬ sought <+: (before ++ sought).drop place) (rest : List UInt8) :
    afterFirst sought (before ++ (sought ++ rest)) = some rest := by
  induction before with
  | nil =>
      obtain ⟨byte, tail, rfl⟩ := List.exists_cons_of_ne_nil nonempty
      have here : (byte :: tail).isPrefixOf (byte :: (tail ++ rest)) = true :=
        List.isPrefixOf_iff_prefix.mpr (List.prefix_append _ _)
      rw [List.nil_append, List.cons_append, afterFirst, if_pos here, ← List.cons_append, List.drop_left]
  | cons byte before ih =>
      have absent : ¬ sought.isPrefixOf (byte :: (before ++ (sought ++ rest))) = true := by
        intro starts
        refine first 0 (Nat.succ_pos _) (List.prefix_of_prefix_length_le (List.isPrefixOf_iff_prefix.mp starts) ?_ ?_)
        · exact ⟨rest, by simp⟩
        · simp
          omega
      rw [List.cons_append, afterFirst, if_neg absent]
      exact ih fun place early => first (place + 1) (Nat.succ_lt_succ early)

theorem afterFirst_eq_some {sought bytes rest : List UInt8} (found : afterFirst sought bytes = some rest) :
    ∃ before, bytes = before ++ (sought ++ rest) := by
  induction bytes with
  | nil => cases found
  | cons byte bytes ih =>
      rw [afterFirst] at found
      split at found
      · rename_i starts
        obtain ⟨after, whole⟩ := List.isPrefixOf_iff_prefix.mp starts
        rw [← whole, List.drop_left] at found
        exact ⟨[], by rw [← whole, Option.some.inj found, List.nil_append]⟩
      · obtain ⟨before, rfl⟩ := ih found
        exact ⟨byte :: before, rfl⟩

theorem scanObject_taken {depth : Nat} {quoted escaped : Bool} {bytes range : List UInt8}
    (scanned : scanObject depth quoted escaped bytes = .ok (some range)) : range <+: bytes := by
  have further {result : Except Fault (Option (List UInt8))} {byte : UInt8} {bytes range : List UInt8}
      (ih : ∀ {taken}, result = .ok (some taken) → taken <+: bytes)
      (mapped : result.map (Option.map (byte :: ·)) = .ok (some range)) : range <+: byte :: bytes := by
    cases result with
    | error fault => cases mapped
    | ok taken =>
        obtain ⟨taken, rfl, rfl⟩ := Option.map_eq_some_iff.mp (Except.ok.inj mapped)
        exact List.cons_prefix_cons.mpr ⟨rfl, ih rfl⟩
  induction bytes generalizing depth quoted escaped range with
  | nil => cases quoted <;> cases escaped <;> cases scanned
  | cons byte bytes ih =>
      cases quoted with
      | true =>
          cases escaped with
          | true => exact further ih scanned
          | false =>
              rw [scanObject] at scanned
              split at scanned
              · exact further ih scanned
              · split at scanned <;> exact further ih scanned
      | false =>
          rw [scanObject.eq_def] at scanned
          dsimp only at scanned
          split at scanned
          · exact further ih scanned
          · split at scanned
            · exact further ih scanned
            · split at scanned
              · match depth, scanned with
                | 1, scanned =>
                    cases scanned
                    exact ⟨bytes, rfl⟩
                | depth + 2, scanned => exact further ih scanned
              · exact further ih scanned

/-- Behind the first place of a key the scan returns exactly the object that stands
there, whatever comes after it; on any bytes it ends without underflow, and what it
returns stands in them behind the key. -/
theorem extractObjectField_exact :
    (∀ (key : String) (before after : List UInt8) (members : Members),
      (∀ place < before.length, ¬ fieldNeedle key <+: (before ++ fieldNeedle key).drop place) →
        extractObjectField (before ++ (fieldNeedle key ++ ((Tree.object members).text ++ after))) key =
          .ok (Tree.object members).text) ∧
    ∀ (bytes : List UInt8) (key : String), NeverPanics (extractObjectField bytes key) ∧
      ∀ range, extractObjectField bytes key = .ok range →
        ∃ before after, bytes = before ++ (fieldNeedle key ++ (range ++ after)) := by
  constructor
  · intro key before after members first
    have opened : ¬ ((Tree.object members).text ++ after).head? ≠ some openBrace := by
      rw [Tree.text]
      exact not_not.mpr rfl
    have nonempty : fieldNeedle key ≠ [] := List.cons_ne_nil _ _
    rw [extractObjectField, afterFirst_place nonempty first]
    simp only [if_neg opened, scanObject_object]
  · intro bytes key
    refine ⟨extractObjectField_neverPanics bytes key, fun range extracted => ?_⟩
    rw [extractObjectField] at extracted
    split at extracted
    · cases extracted
    · rename_i found reached
      obtain ⟨before, rfl⟩ := afterFirst_eq_some reached
      split at extracted
      · cases extracted
      · split at extracted
        · cases extracted
        · cases extracted
        · rename_i taken scanned
          cases extracted
          obtain ⟨after, rfl⟩ := scanObject_taken scanned
          exact ⟨before, after, rfl⟩

end ConstellationNq.Core
