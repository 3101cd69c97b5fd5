import Batching.Failure
import Batching.Policy
import Batching.Text.Span

namespace Batching

/-! The events that a running accumulator, its sinks, its channel and its
configuration make known, and the log entry that each is written as. -/

inductive Level where
  | trace
  | debug
  | info
  | warn
  | error
deriving DecidableEq, Repr

def Level.text : Level → String
  | .trace => "trace"
  | .debug => "debug"
  | .info => "info"
  | .warn => "warn"
  | .error => "error"

inductive FieldValue where
  | number (value : Nat)
  | text (value : String)
deriving DecidableEq, Repr

structure LogEntry where
  level : Level
  message : String
  fields : List (String × FieldValue)
deriving DecidableEq, Repr

/-- What happened.  Events of an accumulator name it. -/
inductive Notice where
  | starting (accumulator : String)
  | started (accumulator : String) (policy : Policy)
  | startFailed (accumulator : String) (failure : Failure)
  | sinkRollbackFailed (accumulator : String) (failure : Failure)
  | stopping (accumulator : String)
  | clearedOnStop (accumulator : String) (dropped : Nat)
  | stopped (accumulator : String)
  | workerStarted (accumulator : String)
  | workerExited (accumulator : String) (dropped : Nat)
  | workerCrashed (accumulator : String)
  | deadlineExpired (accumulator : String) (cycle index : Nat)
  | receiveTimedOut (accumulator : String) (cycle index timeout : Nat)
  | messageDropped (accumulator : String) (cycle index : Nat)
  | batchDropped (accumulator : String) (cycle dropped : Nat)
  | cycleComplete (accumulator : String) (cycle received dispatched : Nat) (reason : FillExit)
  | cyclePanicked (accumulator : String) (cycle : Nat) (phase : Phase) (panic : String)
  | cycleFailed (accumulator : String) (failure : CycleFailure)
  | delivered (sink : String)
  | deliveryFailed (sink : String) (failure : Failure)
  | deliveryRetried (sink : String) (attempt attempts : Nat) (failure : Failure)
  | channelClosed
  | unparsableValue (key value : String)
  | contentCapTooLarge (batchSize outBatchSize : Nat)
deriving DecidableEq, Repr

def Notice.entry : Notice → LogEntry
  | .starting accumulator =>
      ⟨.info, "starting batch accumulator", [("accumulator", .text accumulator)]⟩
  | .started accumulator policy =>
      ⟨.info, "batch accumulator running",
        [("accumulator", .text accumulator),
          ("batch_size", .number policy.batchSize),
          ("out_batch_size", .number policy.outBatchSizeOrZero),
          ("batch_timeout", .text (Text.span policy.batchTimeout))]⟩
  | .startFailed accumulator failure =>
      ⟨.warn, "batch accumulator failed to start",
        [("accumulator", .text accumulator), ("error", .text failure.message)]⟩
  | .sinkRollbackFailed accumulator failure =>
      ⟨.warn, "failed to stop sink after startup failure",
        [("accumulator", .text accumulator), ("error", .text failure.message)]⟩
  | .stopping accumulator =>
      ⟨.info, "stopping batch accumulator", [("accumulator", .text accumulator)]⟩
  | .clearedOnStop accumulator dropped =>
      ⟨.debug, "cleared pending batch on stop",
        [("accumulator", .text accumulator), ("dropped", .number dropped)]⟩
  | .stopped accumulator =>
      ⟨.info, "batch accumulator stopped", [("accumulator", .text accumulator)]⟩
  | .workerStarted accumulator =>
      ⟨.debug, "batch worker started", [("accumulator", .text accumulator)]⟩
  | .workerExited accumulator dropped =>
      ⟨.debug, "batch worker exited",
        [("accumulator", .text accumulator), ("dropped", .number dropped)]⟩
  | .workerCrashed accumulator =>
      ⟨.warn, "batch worker terminated abnormally", [("accumulator", .text accumulator)]⟩
  | .deadlineExpired accumulator cycle index =>
      ⟨.trace, "batch timeout expired at batch index",
        [("accumulator", .text accumulator), ("cycle", .number cycle), ("index", .number index)]⟩
  | .receiveTimedOut accumulator cycle index timeout =>
      ⟨.trace, "receive timed out at batch index",
        [("accumulator", .text accumulator), ("cycle", .number cycle), ("index", .number index),
          ("timeout", .text (Text.span timeout))]⟩
  | .messageDropped accumulator cycle index =>
      ⟨.trace, "accumulator stopping, received message dropped",
        [("accumulator", .text accumulator), ("cycle", .number cycle), ("index", .number index)]⟩
  | .batchDropped accumulator cycle dropped =>
      ⟨.debug, "accumulator stopping, batch dropped undelivered",
        [("accumulator", .text accumulator), ("cycle", .number cycle),
          ("dropped", .number dropped)]⟩
  | .cycleComplete accumulator cycle received dispatched reason =>
      ⟨.debug, "batch cycle complete",
        [("accumulator", .text accumulator), ("cycle", .number cycle),
          ("received", .number received), ("dispatched", .number dispatched),
          ("reason", .text reason.text)]⟩
  | .cyclePanicked accumulator cycle phase panic =>
      ⟨.warn, "collaborator panicked during batch cycle",
        [("accumulator", .text accumulator), ("cycle", .number cycle),
          ("phase", .text phase.text), ("panic", .text panic)]⟩
  | .cycleFailed accumulator failure =>
      ⟨.error, "batch cycle failed",
        [("accumulator", .text accumulator), ("cycle", .number failure.cycle),
          ("phase", .text failure.phase.text), ("discarded", .number failure.discarded),
          ("error", .text failure.cause.message)]⟩
  | .delivered sink => ⟨.trace, "message processed", [("sink", .text sink)]⟩
  | .deliveryFailed sink failure =>
      ⟨.debug, "message processing failed",
        [("sink", .text sink), ("error", .text failure.message)]⟩
  | .deliveryRetried sink attempt attempts failure =>
      ⟨.warn, "message processing failed, retrying",
        [("sink", .text sink), ("attempt", .number attempt), ("max_attempts", .number attempts),
          ("error", .text failure.message)]⟩
  | .channelClosed => ⟨.debug, "channel closed, idling until receive timeout", []⟩
  | .unparsableValue key value =>
      ⟨.warn, "ignoring unparseable config value", [("key", .text key), ("value", .text value)]⟩
  | .contentCapTooLarge batchSize outBatchSize =>
      ⟨.warn, "out_batch_size exceeds batch_size and can never fire",
        [("batch_size", .number batchSize), ("out_batch_size", .number outBatchSize)]⟩

end Batching
