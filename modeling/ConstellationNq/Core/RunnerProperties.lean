import Mathlib.Data.List.Induction
import ConstellationNq.Core.Runner

/-!
# What a captured response says about the helper

A reader that ends without an error has drained its pipe, so what it hands over is
everything that the helper wrote, cut at the limit. The overflow flags are only looked at
in the polling loop, and a helper that exits after the last look leaves them unread.
-/

set_option autoImplicit false

namespace ConstellationNq.Core

open Protocol

variable {host : Host} {state next : RunState}

/-! ## The readers -/

/-- The thread has kept the front of what it read, within the limit. -/
structure Stream.Tracks (limit : Nat) (closed : Bool) (stream : Stream) : Prop where
  consumed : ∃ consumed, stream.written = consumed ++ stream.unread ∧ stream.retained = consumed.take limit ∧
    stream.overflow = decide (limit < consumed.length)
  whole : ∀ result ∈ stream.sent, result.error = none →
    stream.unread = [] ∧ closed = true ∧ result.bytes = stream.retained

namespace Stream.Tracks

variable {limit : Nat} {closed : Bool} {stream : Stream}

theorem fresh : Stream.Tracks limit closed Stream.fresh where
  consumed := ⟨[], rfl, by rw [List.take_nil]; rfl, rfl⟩
  whole := nofun

theorem close (tracks : Stream.Tracks limit closed stream) : Stream.Tracks limit true stream where
  consumed := tracks.consumed
  whole := by
    intro result sent clean
    obtain ⟨drained, -, bytes⟩ := tracks.whole result sent clean
    exact ⟨drained, rfl, bytes⟩

theorem write (tracks : Stream.Tracks limit false stream) (bytes : List UInt8) :
    Stream.Tracks limit false (stream.write bytes) where
  consumed := by
    obtain ⟨consumed, written, retained, overflow⟩ := tracks.consumed
    refine ⟨consumed, ?_, retained, overflow⟩
    change stream.written ++ bytes = consumed ++ (stream.unread ++ bytes)
    rw [written, List.append_assoc]
  whole := by
    intro result sent clean
    obtain ⟨-, closed, -⟩ := tracks.whole result sent clean
    cases closed

theorem read (tracks : Stream.Tracks limit closed stream) {count : Nat} (available : count ≤ stream.unread.length)
    (reading : stream.sent = none) : Stream.Tracks limit closed (stream.read limit count) where
  consumed := by
    obtain ⟨consumed, written, retained, overflow⟩ := tracks.consumed
    refine ⟨consumed ++ stream.unread.take count, ?_, ?_, ?_⟩
    · change stream.written = consumed ++ stream.unread.take count ++ stream.unread.drop count
      rw [written, List.append_assoc, List.take_append_drop]
    · change stream.retained ++ stream.unread.take (min (limit - stream.retained.length) count) = _
      rw [retained, List.take_append, List.length_take, List.take_take]
      congr 2
      omega
    · change (stream.overflow || decide (min (limit - stream.retained.length) count < count)) = _
      rw [overflow, retained, List.length_take, List.length_append, List.length_take, Nat.min_eq_left available,
        ← Bool.decide_or]
      congr 1
      apply propext
      omega
  whole := by
    intro result sent
    change result ∈ stream.sent at sent
    rw [reading] at sent
    cases sent

theorem finish (tracks : Stream.Tracks limit closed stream) {error : Option String}
    (ended : error = none → stream.unread = [] ∧ closed = true) :
    Stream.Tracks limit closed (stream.finish error) where
  consumed := tracks.consumed
  whole := by
    intro result sent clean
    cases sent
    obtain ⟨drained, closes⟩ := ended clean
    exact ⟨drained, closes, rfl⟩

/-- What a reader without an error sends is everything that was written, cut at the
limit. -/
theorem bytes_of_sent (tracks : Stream.Tracks limit closed stream) {result : PipeRead}
    (sent : stream.sent = some result) (clean : result.error = none) : result.bytes = stream.written.take limit := by
  obtain ⟨consumed, written, retained, -⟩ := tracks.consumed
  obtain ⟨drained, -, bytes⟩ := tracks.whole result sent clean
  rw [bytes, retained, written, drained, List.append_nil]

end Stream.Tracks

/-! ## The main thread -/

/-- The main thread holds what the readers sent. -/
def MainPhase.Holds (parse : List UInt8 → Except String Json) (stdoutSent stderrSent : Option PipeRead) :
    MainPhase → Prop
  | .receiveWriter polled => polled.forcedOutcome ≠ some .response
  | .receiveStdout polled _ => polled.forcedOutcome ≠ some .response
  | .receiveStderr polled _ stdout =>
      polled.forcedOutcome ≠ some .response ∧ (stdout.error = none → stdoutSent = some stdout)
  | .returned capture => capture.outcome = .response → ∃ stdout stderr,
      stdoutSent = some stdout ∧ stdout.error = none ∧ capture.stdout = stdout.bytes ∧
      stderrSent = some stderr ∧ stderr.error = none ∧ capture.stderr = stderr.bytes ∧
      validateFrame parse stdout.bytes = .response
  | _ => True

theorem MainPhase.Holds.mono {parse : List UInt8 → Except String Json}
    {stdoutSent stderrSent stdoutLater stderrLater : Option PipeRead} {main : MainPhase}
    (stdoutKept : ∀ result, stdoutSent = some result → stdoutLater = some result)
    (stderrKept : ∀ result, stderrSent = some result → stderrLater = some result)
    (holds : main.Holds parse stdoutSent stderrSent) : main.Holds parse stdoutLater stderrLater := by
  cases main with
  | receiveStderr polled writer stdout => exact ⟨holds.1, fun clean => stdoutKept stdout (holds.2 clean)⟩
  | returned capture =>
      intro response
      obtain ⟨stdout, stderr, stdoutSends, rest, bytes, stderrSends, more⟩ := holds response
      exact ⟨stdout, stderr, stdoutKept stdout stdoutSends, rest, bytes, stderrKept stderr stderrSends, more⟩
  | _ => exact holds

theorem capture_response {polled : Polled} {writer : Except String Unit} {stdout stderr : PipeRead}
    (unforced : polled.forcedOutcome ≠ some .response)
    (response : (capture host polled writer stdout stderr).outcome = .response) :
    stdout.error = none ∧ stderr.error = none ∧ validateFrame host.parse stdout.bytes = .response := by
  unfold capture at response
  cases forced : polled.forcedOutcome with
  | some outcome =>
      rw [forced] at response unforced
      exact absurd (congrArg some response) unforced
  | none =>
      rw [forced] at response
      change collectedOutcome host.parse polled.status writer stdout stderr = .response at response
      unfold collectedOutcome at response
      split at response
      · cases response
      · split at response
        · cases response
        · rename_i clean
          split at response
          · cases response
          · split at response
            · rw [Option.or_eq_none_iff] at clean
              exact ⟨clean.1, clean.2, response⟩
            · cases response

/-- What holds after every step of every interleaving. -/
structure RunState.Tracked (host : Host) (state : RunState) : Prop where
  stdout : state.stdout.Tracks host.limits.maxResponseBytes state.closed
  stderr : state.stderr.Tracks host.limits.maxStderrBytes state.closed
  main : state.main.Holds host.parse state.stdout.sent state.stderr.sent

namespace RunState.Tracked

theorem withMain (tracked : state.Tracked host) {main : MainPhase}
    (holds : main.Holds host.parse state.stdout.sent state.stderr.sent) : (state.withMain main).Tracked host :=
  ⟨tracked.stdout, tracked.stderr, holds⟩

theorem force (tracked : state.Tracked host) {outcome : AcquisitionOutcome} (refusal : outcome ≠ .response) :
    (state.force outcome).Tracked host :=
  ⟨tracked.stdout, tracked.stderr, fun same => refusal (Option.some.inj same)⟩

theorem withStream (tracked : state.Tracked host) (channel : Channel) {stream : Stream}
    (tracks : stream.Tracks (host.limits.limit channel) state.closed)
    (kept : ∀ result, (state.stream channel).sent = some result → stream.sent = some result) :
    (state.withStream channel stream).Tracked host := by
  cases channel with
  | stdout => exact ⟨tracks, tracked.stderr, tracked.main.mono kept fun _ same => same⟩
  | stderr => exact ⟨tracked.stdout, tracks, tracked.main.mono (fun _ same => same) kept⟩

theorem stream (tracked : state.Tracked host) (channel : Channel) :
    (state.stream channel).Tracks (host.limits.limit channel) state.closed := by
  cases channel with
  | stdout => exact tracked.stdout
  | stderr => exact tracked.stderr

theorem step (tracked : state.Tracked host) (taken : RunStep host state next) : next.Tracked host := by
  cases taken with
  | helperWrites channel bytes spawned writable room =>
      have tracks := tracked.stream channel
      refine tracked.withStream channel ?_ fun _ same => same
      rw [writable] at tracks ⊢
      exact tracks.write bytes
  | childExits status spawned running => exact ⟨tracked.stdout, tracked.stderr, tracked.main⟩
  | pipesClose ended => exact ⟨tracked.stdout.close, tracked.stderr.close, tracked.main⟩
  | readerReads channel count nonempty fits available reading =>
      exact tracked.withStream channel ((tracked.stream channel).read available reading) fun _ same => same
  | readerEnds channel drained closed reading =>
      refine tracked.withStream channel ((tracked.stream channel).finish fun _ => ⟨drained, closed⟩) fun result sent => ?_
      rw [reading] at sent
      cases sent
  | readerFails channel message spawned reading =>
      refine tracked.withStream channel ((tracked.stream channel).finish nofun) fun result sent => ?_
      rw [reading] at sent
      cases sent
  | writerEnds result spawned writing => exact ⟨tracked.stdout, tracked.stderr, tracked.main⟩
  | spawnFails message main => exact tracked.withMain nofun
  | pipeMissing main => exact tracked.withMain nofun
  | spawned main => exact tracked.withMain trivial
  | stdoutExceeds main exceeds => exact tracked.force nofun
  | stdoutWithin main within => exact tracked.withMain trivial
  | stderrExceeds main exceeds => exact tracked.force nofun
  | stderrWithin main within => exact tracked.withMain trivial
  | deadlinePassed main => exact tracked.force nofun
  | deadlineAhead main => exact tracked.withMain trivial
  | sleeps main running => exact tracked.withMain trivial
  | waitFails message main => exact tracked.force nofun
  | reaps status main ended => exact tracked.withMain nofun
  | reapFails message main ended => exact tracked.withMain nofun
  | receivesWriter main sent =>
      have holds := tracked.main
      rw [main] at holds
      exact tracked.withMain holds
  | writerStalls main message writing =>
      have holds := tracked.main
      rw [main] at holds
      exact tracked.withMain holds
  | receivesStdout main sent =>
      have holds := tracked.main
      rw [main] at holds
      exact tracked.withMain ⟨holds, fun _ => sent⟩
  | stdoutStalls main reading =>
      have holds := tracked.main
      rw [main] at holds
      exact tracked.withMain ⟨holds, nofun⟩
  | @receivesStderr polled writer stdout result main sent =>
      have holds := tracked.main
      rw [main] at holds
      refine tracked.withMain fun response => ?_
      obtain ⟨stdoutClean, stderrClean, frame⟩ := capture_response holds.1 response
      exact ⟨stdout, result, holds.2 stdoutClean, stdoutClean, rfl, sent, stderrClean, rfl, frame⟩
  | @stderrStalls polled writer stdout main reading =>
      have holds := tracked.main
      rw [main] at holds
      refine tracked.withMain fun response => ?_
      obtain ⟨-, stderrClean, -⟩ := capture_response holds.1 response
      cases stderrClean

end RunState.Tracked

theorem Runs.tracked (runs : Runs host state) : state.Tracked host := by
  induction runs with
  | start => exact ⟨.fresh, .fresh, trivial⟩
  | step earlier taken ih => exact ih.step taken

/-! ## A run that ends between two looks at the flags -/

/-- A pipe whose bytes have all been read. -/
def Stream.settled (limit : Nat) (bytes : List UInt8) : Stream where
  written := bytes
  unread := []
  retained := bytes.take limit
  overflow := decide (limit < bytes.length)
  sent := none

private theorem settled_nil (limit : Nat) : Stream.settled limit [] = Stream.fresh := by
  unfold Stream.settled Stream.fresh
  rw [List.take_nil]
  simp

private theorem settled_next (limit : Nat) (bytes : List UInt8) (byte : UInt8) :
    ((Stream.settled limit bytes).write [byte]).read limit 1 = Stream.settled limit (bytes ++ [byte]) := by
  unfold Stream.settled Stream.write Stream.read
  simp only [List.nil_append, List.drop_succ_cons, List.drop_zero, List.length_take, List.length_append,
    List.length_cons, List.length_nil, Stream.mk.injEq, true_and, and_true]
  constructor
  · rw [List.take_append]
    congr 1
    by_cases room : bytes.length < limit
    · rw [Nat.min_eq_right (by omega), List.take_of_length_le (by simp), List.take_of_length_le (by simp; omega)]
    · rw [Nat.sub_eq_zero_of_le (by omega : limit ≤ bytes.length), show limit - min limit bytes.length = 0 by omega]
      rfl
  · rw [← Bool.decide_or]
    congr 1
    apply propext
    omega

private def polling (stdout stderr : Stream) : RunState where
  stdout := stdout
  stderr := stderr
  exited := none
  closed := false
  writer := none
  main := .pollExit

section Escape

variable (host : Host)

private theorem runs_polling : Runs host (polling .fresh .fresh) :=
  have spawned := Runs.start.step (RunStep.spawned rfl)
  have first := spawned.step (RunStep.stdoutWithin rfl rfl)
  have second := first.step (RunStep.stderrWithin rfl rfl)
  second.step (RunStep.deadlineAhead rfl)

private theorem writes_byte {state : RunState} (runs : Runs host state) (spawned : state.main ≠ .spawn)
    (writable : state.closed = false) (channel : Channel) {bytes : List UInt8} (byte : UInt8)
    (settled : state.stream channel = .settled (host.limits.limit channel) bytes) :
    Runs host (state.withStream channel (.settled (host.limits.limit channel) (bytes ++ [byte]))) := by
  have wrote := runs.step (RunStep.helperWrites channel [byte] spawned writable (by
    rw [settled]
    exact host.pipeRoom_positive))
  have read := wrote.step (RunStep.readerReads channel 1 Nat.one_pos (by decide) (by
    cases channel <;> simp [RunState.stream, RunState.withStream, Stream.write]) (by
    cases channel
    · exact congrArg Stream.sent settled
    · exact congrArg Stream.sent settled))
  rw [settled] at read
  cases channel with
  | stdout => rw [← settled_next]; exact read
  | stderr => rw [← settled_next]; exact read

private theorem runs_stdout (bytes : List UInt8) :
    Runs host (polling (.settled host.limits.maxResponseBytes bytes) .fresh) := by
  induction bytes using List.reverseRecOn with
  | nil =>
      rw [settled_nil]
      exact runs_polling host
  | append_singleton bytes byte ih => exact writes_byte host ih nofun rfl .stdout byte rfl

private theorem runs_stderr (stdout bytes : List UInt8) :
    Runs host (polling (.settled host.limits.maxResponseBytes stdout) (.settled host.limits.maxStderrBytes bytes)) := by
  induction bytes using List.reverseRecOn with
  | nil =>
      rw [settled_nil]
      exact runs_stdout host stdout
  | append_singleton bytes byte ih => exact writes_byte host ih nofun rfl .stderr byte rfl

/-- Whatever a helper writes, the flags may be looked at for the last time before the
readers have seen any of it. -/
theorem exists_run_response (stdout stderr : List UInt8)
    (frame : validateFrame host.parse (stdout.take host.limits.maxResponseBytes) = .response) :
    ∃ state captured, Runs host state ∧ state.main = .returned captured ∧ captured.outcome = .response ∧
      state.exited = some { code := some 0 } ∧ state.stdout.written = stdout ∧ state.stderr.written = stderr ∧
      captured.stdout = stdout.take host.limits.maxResponseBytes ∧
      captured.stderr = stderr.take host.limits.maxStderrBytes := by
  have exits := (runs_stderr host stdout stderr).step (RunStep.childExits { code := some 0 } nofun rfl)
  have closes := exits.step (RunStep.pipesClose nofun)
  have stdoutEnds := closes.step (RunStep.readerEnds .stdout rfl rfl rfl)
  have stderrEnds := stdoutEnds.step (RunStep.readerEnds .stderr rfl rfl rfl)
  have writerEnds := stderrEnds.step (RunStep.writerEnds (.ok ()) nofun rfl)
  have reaped := writerEnds.step (RunStep.reaps { code := some 0 } rfl rfl)
  have written := reaped.step (RunStep.receivesWriter rfl rfl)
  have received := written.step (RunStep.receivesStdout rfl rfl)
  have returned := received.step (RunStep.receivesStderr rfl rfl)
  exact ⟨_, _, returned, rfl, frame, rfl, rfl, rfl, rfl, rfl⟩

end Escape

/-! ## Responses -/

/-- The capture holds everything that the helper wrote, and that is within the limits. -/
structure RunCapture.Honest (limits : ResourceLimits) (stdout stderr : List UInt8) (captured : RunCapture) : Prop where
  stdoutWithin : stdout.length ≤ limits.maxResponseBytes
  stderrWithin : stderr.length ≤ limits.maxStderrBytes
  stdout : captured.stdout = stdout
  stderr : captured.stderr = stderr

/-- Every run in which the helper writes this, exits with success and is reported as a
response is honest. -/
def HonestCapture (host : Host) (stdout stderr : List UInt8) : Prop :=
  ∀ state captured, Runs host state → state.main = .returned captured → captured.outcome = .response →
    state.exited = some { code := some 0 } → state.stdout.written = stdout → state.stderr.written = stderr →
    captured.Honest host.limits stdout stderr

/-- A helper is captured honestly in every interleaving if and only if it keeps to its
limits, or its output cut at the limit is not a frame. -/
theorem honest_capture_iff (host : Host) (stdout stderr : List UInt8) :
    HonestCapture host stdout stderr ↔
      stdout.length ≤ host.limits.maxResponseBytes ∧ stderr.length ≤ host.limits.maxStderrBytes ∨
      validateFrame host.parse (stdout.take host.limits.maxResponseBytes) ≠ .response := by
  constructor
  · intro honest
    by_contra broken
    rw [not_or, not_not] at broken
    obtain ⟨exceeds, frame⟩ := broken
    obtain ⟨state, captured, runs, returned, response, exited, wroteStdout, wroteStderr, -, -⟩ :=
      exists_run_response host stdout stderr frame
    have kept := honest state captured runs returned response exited wroteStdout wroteStderr
    exact exceeds ⟨kept.stdoutWithin, kept.stderrWithin⟩
  · intro condition state captured runs returned response _ wroteStdout wroteStderr
    have tracked := runs.tracked
    have holds := tracked.main
    rw [returned] at holds
    obtain ⟨out, err, outSent, outClean, outBytes, errSent, errClean, errBytes, frame⟩ := holds response
    have outKept := tracked.stdout.bytes_of_sent outSent outClean
    have errKept := tracked.stderr.bytes_of_sent errSent errClean
    rw [wroteStdout] at outKept
    rw [wroteStderr] at errKept
    rw [outKept] at frame outBytes
    rw [errKept] at errBytes
    cases condition with
    | inl within =>
        rw [List.take_of_length_le within.1] at outBytes
        rw [List.take_of_length_le within.2] at errBytes
        exact ⟨within.1, within.2, outBytes, errBytes⟩
    | inr unframed => exact absurd frame unframed

private def smallHost (parse : List UInt8 → Except String Json) : Host where
  limits := { maxResponseBytes := 3, maxStderrBytes := 3 }
  pipeRoom := 65536
  pipeRoom_positive := by decide
  parse := parse

/-- Whichever way JSON is read, as long as an empty object is one: a helper that writes
an empty object, a line feed and one byte more than the limit may be reported as a
response, cut at the limit. -/
theorem cut_output_reported_as_response :
    ¬ ∃ parse : List UInt8 → Except String Json, parse [123, 125] = .ok (.object []) ∧
      HonestCapture (smallHost parse) [123, 125, 10, 120] [] := by
  rintro ⟨parse, object, honest⟩
  rw [honest_capture_iff] at honest
  have frame : validateFrame (smallHost parse).parse [123, 125, 10] = .response := by
    have read : (smallHost parse).parse ([123, 125, 10] : List UInt8).dropLast = .ok (.object []) := object
    rw [validateFrame, read]
    simp
  cases honest with
  | inl within => exact absurd within.1 (by simp [smallHost])
  | inr unframed => exact unframed frame

end ConstellationNq.Core
