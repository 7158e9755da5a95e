import ConstellationNq.Protocol.Canonical

/-!
# Bounded capture of a helper

One run of a helper process: the helper writes to two pipes, a thread reads each of
them, a third sends the request, and the main thread polls the overflow flags, the
deadline and the exit of the child before it collects what the others have. Every
interleaving of them is a run, and so is every moment at which the helper writes, exits
or stalls.
-/

set_option autoImplicit false

namespace ConstellationNq.Core

open Protocol

inductive ExchangeTimeoutPhase where
  | writeRequest
  | readResponse
deriving DecidableEq

/-- How an acquisition ended. Some of the outcomes belong to persistent helpers and never
follow a run over pipes. -/
inductive AcquisitionOutcome where
  | response
  | spawnFailed (message : String)
  | requestWriteFailed (message : String)
  | timeout
  | exchangeTimeout (phase : ExchangeTimeoutPhase)
  | outputTooLarge
  | stderrTooLarge
  | eof
  | malformedFraming (message : String)
  | malformedJson (message : String)
  | exitNonzero (code : Option Int32)
  | helperExited (code : Option Int32)
  | disconnect (message : String)
  | carrierStartupFailed (message : String)
  | notRunning
  | ioFailed (message : String)
deriving DecidableEq

structure ResourceLimits where
  maxResponseBytes : Nat
  maxStderrBytes : Nat

/-- Where a helper runs: its limits, the room in a pipe and the reader of JSON. -/
structure Host where
  limits : ResourceLimits
  pipeRoom : Nat
  pipeRoom_positive : 0 < pipeRoom
  parse : List UInt8 → Except String Json

structure ExitStatus where
  code : Option Int32
deriving DecidableEq

def ExitStatus.success (status : ExitStatus) : Bool := status.code == some 0

structure PipeRead where
  bytes : List UInt8
  error : Option String

structure RunCapture where
  exitCode : Option Int32
  stdout : List UInt8
  stderr : List UInt8
  outcome : AcquisitionOutcome

/-! ## The readers -/

inductive Channel where
  | stdout
  | stderr
deriving DecidableEq

def Channel.name : Channel → String
  | .stdout => "stdout"
  | .stderr => "stderr"

def ResourceLimits.limit (limits : ResourceLimits) : Channel → Nat
  | .stdout => limits.maxResponseBytes
  | .stderr => limits.maxStderrBytes

/-- One pipe: what the helper wrote in all, what of it is still unread, and the state of
the thread that reads it. -/
structure Stream where
  written : List UInt8
  unread : List UInt8
  retained : List UInt8
  overflow : Bool
  sent : Option PipeRead

def Stream.fresh : Stream where
  written := []
  unread := []
  retained := []
  overflow := false
  sent := none

def bufferSize : Nat := 8192

namespace Stream

variable (stream : Stream)

def write (bytes : List UInt8) : Stream :=
  { stream with written := stream.written ++ bytes, unread := stream.unread ++ bytes }

/-- One turn of the reading loop. What exceeds the limit is drained and dropped. -/
def read (limit count : Nat) : Stream :=
  let copy := min (limit - stream.retained.length) count
  { stream with
    unread := stream.unread.drop count
    retained := stream.retained ++ stream.unread.take copy
    overflow := stream.overflow || decide (copy < count) }

/-- The thread hands over what it has and ends. -/
def finish (error : Option String) : Stream :=
  { stream with sent := some { bytes := stream.retained, error := error } }

end Stream

/-! ## The main thread -/

section Frame

variable (parse : List UInt8 → Except String Json)

def validateFrame (stdout : List UInt8) : AcquisitionOutcome :=
  if stdout = [] then .eof
  else if stdout.getLast? ≠ some 10 then .malformedFraming "response must end with LF"
  else if 10 ∈ stdout.dropLast then .malformedFraming "expected exactly one response frame"
  else if stdout.dropLast.getLast? = some 13 then .malformedFraming "CRLF framing is not canonical"
  else
    match parse stdout.dropLast with
    | .ok (.object _) => .response
    | .ok _ => .malformedJson "top-level response must be an object"
    | .error message => .malformedJson message

/-- The outcome after the loop, if the loop forced none. -/
def collectedOutcome (status : Option ExitStatus) (writer : Except String Unit) (stdout stderr : PipeRead) :
    AcquisitionOutcome :=
  match writer with
  | .error message => .requestWriteFailed message
  | .ok () =>
      match stdout.error.or stderr.error with
      | some message => .ioFailed message
      | none =>
          match status with
          | none => .ioFailed "helper produced no exit status"
          | some status =>
              if status.success then validateFrame parse stdout.bytes else .exitNonzero status.code

end Frame

structure Polled where
  forcedOutcome : Option AcquisitionOutcome
  status : Option ExitStatus

inductive MainPhase where
  | spawn
  | pollStdout
  | pollStderr
  | pollDeadline
  | pollExit
  | receiveWriter (polled : Polled)
  | receiveStdout (polled : Polled) (writer : Except String Unit)
  | receiveStderr (polled : Polled) (writer : Except String Unit) (stdout : PipeRead)
  | returned (capture : RunCapture)

/-- The child has exited once it has a status; its pipes are closed when no process of
its group is left to write. -/
structure RunState where
  stdout : Stream
  stderr : Stream
  exited : Option ExitStatus
  closed : Bool
  writer : Option (Except String Unit)
  main : MainPhase

namespace RunState

def start : RunState where
  stdout := .fresh
  stderr := .fresh
  exited := none
  closed := false
  writer := none
  main := .spawn

def stream (state : RunState) : Channel → Stream
  | .stdout => state.stdout
  | .stderr => state.stderr

def withStream (state : RunState) (channel : Channel) (stream : Stream) : RunState :=
  match channel with
  | .stdout => { state with stdout := stream }
  | .stderr => { state with stderr := stream }

def withMain (state : RunState) (main : MainPhase) : RunState := { state with main := main }

/-- The loop ends with an outcome of its own and kills the child. -/
def force (state : RunState) (outcome : AcquisitionOutcome) : RunState :=
  { state with
    exited := some (state.exited.getD { code := none })
    main := .receiveWriter { forcedOutcome := some outcome, status := none } }

end RunState

def capture (host : Host) (polled : Polled) (writer : Except String Unit) (stdout stderr : PipeRead) : RunCapture where
  exitCode := polled.status.bind ExitStatus.code
  stdout := stdout.bytes
  stderr := stderr.bytes
  outcome := polled.forcedOutcome.getD (collectedOutcome host.parse polled.status writer stdout stderr)

/-- A reader that has sent nothing within the time is given up. -/
def unclosed (channel : Channel) : PipeRead where
  bytes := []
  error := some (channel.name ++ " did not close after helper termination")

/-- One step of one of the threads or of the helper. -/
inductive RunStep (host : Host) : RunState → RunState → Prop where
  | helperWrites {state : RunState} (channel : Channel) (bytes : List UInt8) (spawned : state.main ≠ .spawn)
      (writable : state.closed = false)
      (room : (state.stream channel).unread.length + bytes.length ≤ host.pipeRoom) :
      RunStep host state (state.withStream channel ((state.stream channel).write bytes))
  | childExits {state : RunState} (status : ExitStatus) (spawned : state.main ≠ .spawn)
      (running : state.exited = none) :
      RunStep host state { state with exited := some status }
  | pipesClose {state : RunState} (ended : state.exited ≠ none) : RunStep host state { state with closed := true }
  | readerReads {state : RunState} (channel : Channel) (count : Nat) (nonempty : 0 < count)
      (fits : count ≤ bufferSize) (available : count ≤ (state.stream channel).unread.length)
      (reading : (state.stream channel).sent = none) :
      RunStep host state
        (state.withStream channel ((state.stream channel).read (host.limits.limit channel) count))
  | readerEnds {state : RunState} (channel : Channel) (drained : (state.stream channel).unread = [])
      (closed : state.closed = true) (reading : (state.stream channel).sent = none) :
      RunStep host state (state.withStream channel ((state.stream channel).finish none))
  | readerFails {state : RunState} (channel : Channel) (message : String) (spawned : state.main ≠ .spawn)
      (reading : (state.stream channel).sent = none) :
      RunStep host state (state.withStream channel ((state.stream channel).finish (some message)))
  | writerEnds {state : RunState} (result : Except String Unit) (spawned : state.main ≠ .spawn)
      (writing : state.writer = none) :
      RunStep host state { state with writer := some result }
  | spawnFails {state : RunState} (message : String) (main : state.main = .spawn) :
      RunStep host state (state.withMain (.returned
        { exitCode := none, stdout := [], stderr := [], outcome := .spawnFailed message }))
  | pipeMissing {state : RunState} (main : state.main = .spawn) :
      RunStep host state (state.withMain (.returned
        { exitCode := none, stdout := [], stderr := [],
          outcome := .ioFailed "spawned helper is missing a configured pipe" }))
  | spawned {state : RunState} (main : state.main = .spawn) : RunStep host state (state.withMain .pollStdout)
  | stdoutExceeds {state : RunState} (main : state.main = .pollStdout) (exceeds : state.stdout.overflow = true) :
      RunStep host state (state.force .outputTooLarge)
  | stdoutWithin {state : RunState} (main : state.main = .pollStdout) (within : state.stdout.overflow = false) :
      RunStep host state (state.withMain .pollStderr)
  | stderrExceeds {state : RunState} (main : state.main = .pollStderr) (exceeds : state.stderr.overflow = true) :
      RunStep host state (state.force .stderrTooLarge)
  | stderrWithin {state : RunState} (main : state.main = .pollStderr) (within : state.stderr.overflow = false) :
      RunStep host state (state.withMain .pollDeadline)
  | deadlinePassed {state : RunState} (main : state.main = .pollDeadline) :
      RunStep host state (state.force .timeout)
  | deadlineAhead {state : RunState} (main : state.main = .pollDeadline) :
      RunStep host state (state.withMain .pollExit)
  | sleeps {state : RunState} (main : state.main = .pollExit) (running : state.exited = none) :
      RunStep host state (state.withMain .pollStdout)
  | waitFails {state : RunState} (message : String) (main : state.main = .pollExit) :
      RunStep host state (state.force (.ioFailed message))
  | reaps {state : RunState} (status : ExitStatus) (main : state.main = .pollExit)
      (ended : state.exited = some status) :
      RunStep host state (state.withMain (.receiveWriter { forcedOutcome := none, status := some status }))
  | reapFails {state : RunState} (message : String) (main : state.main = .pollExit) (ended : state.exited ≠ none) :
      RunStep host state (state.withMain
        (.receiveWriter { forcedOutcome := some (.ioFailed message), status := none }))
  | receivesWriter {state : RunState} {polled : Polled} {result : Except String Unit}
      (main : state.main = .receiveWriter polled) (sent : state.writer = some result) :
      RunStep host state (state.withMain (.receiveStdout polled result))
  | writerStalls {state : RunState} {polled : Polled} (main : state.main = .receiveWriter polled)
      (message : String) (writing : state.writer = none) :
      RunStep host state (state.withMain (.receiveStdout polled (.error message)))
  | receivesStdout {state : RunState} {polled : Polled} {writer : Except String Unit} {result : PipeRead}
      (main : state.main = .receiveStdout polled writer) (sent : state.stdout.sent = some result) :
      RunStep host state (state.withMain (.receiveStderr polled writer result))
  | stdoutStalls {state : RunState} {polled : Polled} {writer : Except String Unit}
      (main : state.main = .receiveStdout polled writer) (reading : state.stdout.sent = none) :
      RunStep host state (state.withMain (.receiveStderr polled writer (unclosed .stdout)))
  | receivesStderr {state : RunState} {polled : Polled} {writer : Except String Unit} {stdout result : PipeRead}
      (main : state.main = .receiveStderr polled writer stdout) (sent : state.stderr.sent = some result) :
      RunStep host state (state.withMain (.returned (capture host polled writer stdout result)))
  | stderrStalls {state : RunState} {polled : Polled} {writer : Except String Unit} {stdout : PipeRead}
      (main : state.main = .receiveStderr polled writer stdout) (reading : state.stderr.sent = none) :
      RunStep host state (state.withMain (.returned (capture host polled writer stdout (unclosed .stderr))))

/-- The states that some interleaving reaches. -/
inductive Runs (host : Host) : RunState → Prop where
  | start : Runs host .start
  | step {state next : RunState} (earlier : Runs host state) (taken : RunStep host state next) : Runs host next

end ConstellationNq.Core
