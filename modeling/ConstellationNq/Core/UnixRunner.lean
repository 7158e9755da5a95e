import Mathlib.Data.List.Infix
import ConstellationNq.Library.Text
import ConstellationNq.Protocol.Canonical

/-!
# Reading one response from a helper socket

`read_bounded` against every segmentation of the stream. The helper's bytes are given as a
whole; a schedule says what each turn of the loop meets, and for a read how many of the
bytes are ready. A read returns no bytes only when the helper has closed after its last one.
-/

set_option autoImplicit false

namespace ConstellationNq.Core

open Library.Text Protocol

inductive UnixIoPhase where
  | writeRequest
  | readResponse
deriving DecidableEq

inductive UnixAcquisitionOutcome where
  | timeout (phase : UnixIoPhase)
  | outputTooLarge
  | stderrTooLarge
  | eof
  | disconnect (message : String)
  | malformedFraming (message : String)
  | malformedJson (message : String)
  | helperExited (code : Option Int)
  | ioFailed (message : String)
deriving DecidableEq

/-- What one turn of the loop meets. -/
inductive ReadTurn where
  | stderrOverflow
  | deadlinePassed
  /-- One more byte than the number is ready, if the stream has as many left. -/
  | ready (more : Nat)
  | interrupted
  /-- Nothing is ready; the state of the helper is what was observed. -/
  | waiting (observed : Option UnixAcquisitionOutcome)
  | disconnected (message : String)
  | failed (message : String)

/-- The response, or what was read of it with the reason to stop. -/
abbrev ReadResult := Except (List UInt8 × UnixAcquisitionOutcome) (List UInt8)

inductive ReadProgress where
  | reading (response : List UInt8)
  | finished (result : ReadResult)

section Reading

variable (fromSlice : List UInt8 → Except String Json) (maxResponseBytes : Nat)

def validateResponseJson (response : List UInt8) : ReadResult :=
  match fromSlice response.dropLast with
  | .ok (.object _) => .ok response
  | .ok _ => .error (response, .malformedJson "top-level response must be an object")
  | .error message => .error (response, .malformedJson message)

/-- What follows a read that returned bytes; `none` to go on reading. -/
def afterRead (response : List UInt8) : Option ReadResult :=
  if maxResponseBytes < response.length then some (.error (response, .outputTooLarge))
  else match response.idxOf? lineFeed with
    | some newline =>
        if newline + 1 ≠ response.length then
          some (.error (response, .malformedFraming "helper emitted bytes after the response LF"))
        else if (response.take newline).contains carriageReturn then
          some (.error (response, .malformedFraming "response frame must not contain CR"))
        else some (validateResponseJson fromSlice response)
    | none => if response.length = maxResponseBytes then some (.error (response, .outputTooLarge)) else none

/-- The bound of one read: the buffer, and one byte more than may still come. -/
def readBound (response : List UInt8) : Nat := min 8192 (maxResponseBytes - response.length + 1)

def stopped (response : List UInt8) (outcome : UnixAcquisitionOutcome) : ReadProgress :=
  .finished (.error (response, outcome))

/-- `read_bounded` from what has been read so far. -/
def readBounded : List UInt8 → List UInt8 → List ReadTurn → ReadProgress
  | response, _, [] => .reading response
  | response, _, .stderrOverflow :: _ => stopped response .stderrTooLarge
  | response, _, .deadlinePassed :: _ => stopped response (.timeout .readResponse)
  | response, stream, .ready more :: turns =>
      let count := min (more + 1) (readBound maxResponseBytes response)
      if stream = [] then
        stopped response (if response = [] then .eof
          else .disconnect "peer closed partway through the response frame")
      else match afterRead fromSlice maxResponseBytes (response ++ stream.take count) with
        | some result => .finished result
        | none => readBounded (response ++ stream.take count) (stream.drop count) turns
  | response, stream, .interrupted :: turns => readBounded response stream turns
  | response, stream, .waiting observed :: turns =>
      match observed with
      | some outcome => stopped response outcome
      | none => readBounded response stream turns
  | response, _, .disconnected message :: _ => stopped response (.disconnect message)
  | response, _, .failed message :: _ => stopped response (.ioFailed message)

/-! ## Frames -/

/-- One line without CR whose text is a JSON object, within the bound. -/
structure Frame (frame : List UInt8) : Prop where
  bounded : frame.length ≤ maxResponseBytes
  line : ∃ body, frame = body ++ [lineFeed] ∧ lineFeed ∉ body ∧ carriageReturn ∉ body ∧
    ∃ members, fromSlice body = .ok (.object members)

/-- Where a run may end, for the stream from its start. -/
def Exact (stream : List UInt8) : ReadProgress → Prop
  | .reading retained => retained <+: stream ∧ retained.length ≤ maxResponseBytes + 1
  | .finished (.error (retained, _)) => retained <+: stream ∧ retained.length ≤ maxResponseBytes + 1
  | .finished (.ok frame) => frame <+: stream ∧ Frame fromSlice maxResponseBytes frame

variable {fromSlice maxResponseBytes}

theorem idxOf_body {body : List UInt8} (single : lineFeed ∉ body) (rest : List UInt8) :
    (body ++ lineFeed :: rest).idxOf? lineFeed = some body.length := by
  induction body with
  | nil => simp [List.idxOf?_cons]
  | cons byte body ih =>
      rw [List.mem_cons, not_or] at single
      have other : (byte == lineFeed) = false := beq_false_of_ne (Ne.symm single.1)
      simp [List.idxOf?_cons, other, ih single.2]

theorem line_cases (response : List UInt8) :
    lineFeed ∉ response ∧ response.idxOf? lineFeed = none ∨
    ∃ body rest, response = body ++ lineFeed :: rest ∧ lineFeed ∉ body ∧
      response.idxOf? lineFeed = some body.length := by
  by_cases present : lineFeed ∈ response
  · obtain ⟨body, rest, rfl, single⟩ := List.eq_append_cons_of_mem present
    exact .inr ⟨body, rest, rfl, single, idxOf_body single rest⟩
  · exact .inl ⟨present, List.idxOf?_eq_none_iff.mpr present⟩

variable {response frame : List UInt8}

theorem validateResponseJson_returned (validated : validateResponseJson fromSlice response = .ok frame) :
    frame = response ∧ ∃ members, fromSlice response.dropLast = .ok (.object members) := by
  unfold validateResponseJson at validated
  split at validated
  · rename_i members parsed
    cases validated
    exact ⟨rfl, members, parsed⟩
  · cases validated
  · cases validated

theorem afterRead_returned (after : afterRead fromSlice maxResponseBytes response = some (.ok frame)) :
    frame = response ∧ Frame fromSlice maxResponseBytes frame := by
  unfold afterRead at after
  split at after
  · cases after
  rename_i bounded
  rcases line_cases response with ⟨-, absent⟩ | ⟨body, rest, rfl, single, found⟩
  · rw [absent] at after
    simp only at after
    split at after <;> cases after
  · rw [found] at after
    simp only at after
    split at after
    · cases after
    rename_i ends
    split at after
    · cases after
    rename_i clean
    obtain rfl : rest = [] := by
      rw [not_not, List.length_append, List.length_cons] at ends
      exact List.length_eq_zero_iff.mp (by omega)
    obtain ⟨rfl, members, parsed⟩ := validateResponseJson_returned (Option.some.inj after)
    rw [List.dropLast_concat] at parsed
    rw [List.take_left, List.contains_iff_mem] at clean
    exact ⟨rfl, Nat.le_of_not_lt bounded, body, rfl, single, clean, members, parsed⟩

theorem afterRead_retained {retained : List UInt8} {outcome : UnixAcquisitionOutcome}
    (after : afterRead fromSlice maxResponseBytes response = some (.error (retained, outcome))) :
    retained = response := by
  unfold afterRead validateResponseJson at after
  grind

theorem afterRead_none (after : afterRead fromSlice maxResponseBytes response = none) :
    lineFeed ∉ response ∧ response.length ≤ maxResponseBytes := by
  unfold afterRead at after
  split at after
  · cases after
  rename_i bounded
  rcases line_cases response with ⟨absent, -⟩ | ⟨body, rest, rfl, single, found⟩
  · exact ⟨absent, Nat.le_of_not_lt bounded⟩
  · rw [found] at after
    simp only at after
    split at after
    · cases after
    · split at after <;> cases after

theorem afterRead_frame (isFrame : Frame fromSlice maxResponseBytes frame) :
    afterRead fromSlice maxResponseBytes frame = some (.ok frame) := by
  obtain ⟨bounded, body, rfl, single, clean, members, parsed⟩ := isFrame
  unfold afterRead validateResponseJson
  rw [if_neg (Nat.not_lt.mpr bounded), idxOf_body single []]
  simp [clean, parsed]

theorem afterRead_part {rest : List UInt8} (isFrame : Frame fromSlice maxResponseBytes frame)
    (split : frame = response ++ rest) (more : rest ≠ []) : afterRead fromSlice maxResponseBytes response = none := by
  obtain ⟨bounded, body, rfl, single, -⟩ := isFrame
  have shorter : response.length < maxResponseBytes := by
    have positive := List.length_pos_iff.mpr more
    rw [split, List.length_append] at bounded
    omega
  have absent : lineFeed ∉ response := by
    have front : response <+: body ++ [lineFeed] := ⟨rest, split.symm⟩
    rcases List.prefix_concat_iff.mp front with rfl | within
    · exact absurd (List.self_eq_append_right.mp split) more
    · exact fun present => single (within.subset present)
  unfold afterRead
  rw [if_neg (Nat.not_lt.mpr shorter.le), List.idxOf?_eq_none_iff.mpr absent]
  exact if_neg shorter.ne

/-! ## Whole runs -/

/-- One read keeps to the stream and takes at most the byte that shows it too long. -/
theorem read_step (response stream : List UInt8) (more : Nat) (bounded : response.length ≤ maxResponseBytes) :
    let count := min (more + 1) (readBound maxResponseBytes response)
    response ++ stream.take count <+: response ++ stream ∧
      (response ++ stream.take count).length ≤ maxResponseBytes + 1 := by
  intro count
  refine ⟨(List.prefix_append_right_inj response).mpr (List.take_prefix ..), ?_⟩
  have taken : (stream.take count).length ≤ count := List.length_take_le ..
  have few : count ≤ maxResponseBytes - response.length + 1 := (min_le_right ..).trans (min_le_right ..)
  rw [List.length_append]
  omega

theorem readBounded_run (turns : List ReadTurn) (response stream : List UInt8)
    (bounded : response.length ≤ maxResponseBytes) :
    Exact fromSlice maxResponseBytes (response ++ stream)
      (readBounded fromSlice maxResponseBytes response stream turns) := by
  have kept : response <+: response ++ stream ∧ response.length ≤ maxResponseBytes + 1 :=
    ⟨List.prefix_append .., by omega⟩
  induction turns generalizing response stream with
  | nil => exact kept
  | cons turn turns ih =>
      cases turn with
      | stderrOverflow => exact kept
      | deadlinePassed => exact kept
      | interrupted => exact ih response stream bounded kept
      | disconnected message => exact kept
      | failed message => exact kept
      | waiting observed =>
          cases observed with
          | some outcome => exact kept
          | none => exact ih response stream bounded kept
      | ready more =>
          have step := read_step response stream more bounded
          rw [readBounded]
          split
          · exact kept
          split
          · rename_i result after
            cases result with
            | error refused =>
                obtain ⟨retained, outcome⟩ := refused
                obtain rfl := afterRead_retained after
                exact step
            | ok frame =>
                obtain ⟨rfl, isFrame⟩ := afterRead_returned after
                exact ⟨step.1, isFrame⟩
          · rename_i after
            have rest := ih _ (stream.drop (min (more + 1) (readBound maxResponseBytes response)))
              (afterRead_none after).2 ⟨List.prefix_append .., step.2⟩
            rwa [List.append_assoc, List.take_append_drop] at rest

/-- The turns of a helper that runs on, within the deadline and without overflow. -/
def Undisturbed (turn : ReadTurn) : Prop :=
  (∃ more, turn = .ready more) ∨ turn = .interrupted ∨ turn = .waiting none

def reads (turns : List ReadTurn) : Nat :=
  turns.countP fun turn => match turn with
    | .ready _ => true
    | _ => false

/-- A frame is returned once all of it was ready, however it was split. -/
theorem readBounded_frame (isFrame : Frame fromSlice maxResponseBytes frame) {turns : List ReadTurn}
    (undisturbed : ∀ turn ∈ turns, Undisturbed turn) {stream : List UInt8} (split : frame = response ++ stream)
    (left : stream ≠ []) :
    readBounded fromSlice maxResponseBytes response stream turns = .finished (.ok frame) ∨
      reads turns < stream.length ∧ ∃ retained rest, frame = retained ++ rest ∧ rest ≠ [] ∧
        readBounded fromSlice maxResponseBytes response stream turns = .reading retained := by
  induction turns generalizing response stream with
  | nil => exact .inr ⟨List.length_pos_iff.mpr left, response, stream, split, left, rfl⟩
  | cons turn turns ih =>
      rw [List.forall_mem_cons] at undisturbed
      rcases undisturbed.1 with ⟨more, rfl⟩ | rfl | rfl
      · have positive : 1 ≤ min (more + 1) (readBound maxResponseBytes response) :=
          le_min (by omega) (le_min (by omega) (by omega))
        rw [readBounded, if_neg left]
        generalize min (more + 1) (readBound maxResponseBytes response) = count at positive
        by_cases finished : stream.drop count = []
        · have whole : stream.take count = stream := by
            have joined := List.take_append_drop count stream
            rwa [finished, List.append_nil] at joined
          rw [whole, ← split, afterRead_frame isFrame]
          exact .inl rfl
        · have parts : frame = response ++ stream.take count ++ stream.drop count := by
            rw [List.append_assoc, List.take_append_drop, split]
          rw [afterRead_part isFrame parts finished]
          rcases ih undisturbed.2 parts finished with returned | ⟨fewer, reading⟩
          · exact .inl returned
          · refine .inr ⟨?_, reading⟩
            have counted : reads (.ready more :: turns) = reads turns + 1 := List.countP_cons_of_pos rfl
            rw [List.length_drop] at fewer
            omega
      · exact ih undisturbed.2 split left
      · exact ih undisturbed.2 split left

/-- For every stream and every schedule: what is returned is the frame that ends at the first
LF, and what is retained stays within one byte of the bound. A stream that is one frame is
returned however it is split; until then part of it is still to be read, and every read
brings at least one byte. -/
theorem readBounded_exact (fromSlice : List UInt8 → Except String Json) (maxResponseBytes : Nat) (stream : List UInt8)
    (turns : List ReadTurn) :
    Exact fromSlice maxResponseBytes stream (readBounded fromSlice maxResponseBytes [] stream turns) ∧
    (Frame fromSlice maxResponseBytes stream → (∀ turn ∈ turns, Undisturbed turn) →
      readBounded fromSlice maxResponseBytes [] stream turns = .finished (.ok stream) ∨
        reads turns < stream.length ∧ ∃ retained rest, stream = retained ++ rest ∧ rest ≠ [] ∧
          readBounded fromSlice maxResponseBytes [] stream turns = .reading retained) := by
  refine ⟨readBounded_run turns [] stream (Nat.zero_le _), fun isFrame undisturbed => ?_⟩
  have nonempty : stream ≠ [] := by
    obtain ⟨-, body, rfl, -⟩ := isFrame
    simp
  exact readBounded_frame isFrame undisturbed (List.nil_append stream).symm nonempty

/-- An object of two reads with an interruption between them. -/
theorem readBounded_exact_split :
    readBounded (fun _ => .ok (.object [])) 3 [] [123, 125, 10] [.ready 0, .interrupted, .ready 5] =
      .finished (.ok [123, 125, 10]) := by
  have frame : Frame (fun _ => .ok (.object [])) 3 [123, 125, 10] :=
    ⟨by decide, [123, 125], rfl, by decide, by decide, [], rfl⟩
  have undisturbed : ∀ turn ∈ [.ready 0, .interrupted, .ready 5], Undisturbed turn := by
    simp [Undisturbed]
  have run := (readBounded_exact (fun _ => .ok (.object [])) 3 [123, 125, 10] _).2 frame undisturbed
  refine run.resolve_right fun unfinished => ?_
  obtain ⟨-, retained, rest, -, -, reading⟩ := unfinished
  cases (show (.finished (.ok [123, 125, 10]) : ReadProgress) = _ from reading)

end Reading

end ConstellationNq.Core
