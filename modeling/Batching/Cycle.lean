import Batching.Batch
import Batching.Counters
import Batching.Notice

namespace Batching

/-! One batch cycle: a fill phase that takes messages from the source under a single
deadline, then a drain phase that hands them to the sink.

A cycle waits at two kinds of places only, for the source and for the sink.  Each
function below is the stretch from one such place to the next, so a cycle in
progress is a value of `Await` and the rest of it is a function of what comes back.
A cycle whose permission was withdrawn begins no further call, drops a message
that still arrives and empties the batch instead of delivering it.
-/

/-- What successive cycles share: the batch and the counters. -/
structure Pipeline (M : Type) where
  name : String
  batch : Batch M := {}
  counters : Counters := {}

/-- The result of a cycle that was not abandoned. -/
structure CycleReport where
  cycle : Nat
  received : Nat
  dispatched : Nat
  reason : FillExit
deriving DecidableEq, Repr

/-- The call of a collaborator that a cycle in progress waits for. -/
inductive Await (M : Type) where
  | receive (cycle index deadline timeout : Nat)
  | process (cycle received : Nat) (reason : FillExit) (dispatched : Nat) (message : M)
deriving Repr

def Await.cycle {M : Type} : Await M → Nat
  | .receive cycle _ _ _ => cycle
  | .process cycle _ _ _ _ => cycle

/-- Where a stretch of a cycle ends. -/
inductive Progress (M : Type) where
  | awaits (await : Await M)
  | ended (result : Except CycleFailure CycleReport)

structure Turn (M : Type) where
  pipeline : Pipeline M
  progress : Progress M
  notices : List Notice := []

def Turn.noting {M : Type} (turn : Turn M) (notice : Notice) : Turn M :=
  { turn with notices := notice :: turn.notices }

namespace Pipeline

variable {M : Type}

/-- Gives the cycle up: what the batch holds is discarded and counted. -/
def abandon (pipeline : Pipeline M) (cycle : Nat) (phase : Phase) (cause : Failure) : Turn M :=
  let discarded := pipeline.batch.size
  { pipeline := { pipeline with
      batch := Batch.empty
      counters := pipeline.counters.countFailure discarded }
    progress := .ended (.error ⟨cycle, phase, discarded, cause⟩)
    notices := match cause with
      | .panic text => [.cyclePanicked pipeline.name cycle phase text]
      | _ => [] }

def complete (pipeline : Pipeline M) (report : CycleReport) : Turn M :=
  { pipeline
    progress := .ended (.ok report)
    notices := [.cycleComplete pipeline.name report.cycle report.received report.dispatched
      report.reason] }

/-- Empties the batch of a cycle whose permission was withdrawn before it was drained. -/
def dropBatch (pipeline : Pipeline M) (report : CycleReport) : Turn M :=
  let dropped := pipeline.batch.size
  let turn := complete
    { pipeline with
      batch := Batch.empty
      counters := pipeline.counters.countDropped dropped }
    report
  if 0 < dropped then turn.noting (.batchDropped pipeline.name report.cycle dropped) else turn

/-- Hands on the oldest message, or ends the cycle when there is none to hand on. -/
def drain (pipeline : Pipeline M) (allowed : Bool) (cycle received : Nat) (reason : FillExit)
    (dispatched : Nat) : Turn M :=
  match pipeline.batch.popFrontIf? allowed with
  | some (message, rest) =>
      { pipeline := { pipeline with batch := rest }
        progress := .awaits (.process cycle received reason dispatched message) }
  | none =>
      if allowed then pipeline.complete ⟨cycle, received, dispatched, reason⟩
      else pipeline.dropBatch ⟨cycle, received, dispatched, reason⟩

/-- Asks the source for message `index`, unless a limit ends the fill phase here. -/
def fill (pipeline : Pipeline M) (policy : Policy) (allowed : Bool)
    (now cycle index deadline : Nat) : Turn M :=
  match policy.completion index pipeline.batch.size with
  | some reason => pipeline.drain allowed cycle index reason 0
  | none =>
      if allowed = false then pipeline.drain allowed cycle index .stopped 0
      else if deadline < now then
        (pipeline.drain allowed cycle index .deadlineExpired 0).noting
          (.deadlineExpired pipeline.name cycle index)
      else
        { pipeline, progress := .awaits (.receive cycle index deadline (deadline - now)) }

/-- The first stretch of a cycle: it takes the next number and sets the deadline.  The sum is
a moment of the clock for every time budget below 2 ^ 64 milliseconds. -/
def beginCycle (pipeline : Pipeline M) (policy : Policy) (allowed : Bool) (now : Nat) : Turn M :=
  let numbered := { pipeline with counters := pipeline.counters.nextCycle }
  numbered.fill policy allowed now numbered.counters.cycles 0 (now + policy.batchTimeout)

def received (pipeline : Pipeline M) (policy : Policy) (allowed : Bool)
    (now cycle index deadline timeout : Nat) (outcome : Outcome (Option M)) : Turn M :=
  match outcome.contain with
  | .error cause => pipeline.abandon cycle .fill cause
  | .ok none =>
      (pipeline.drain allowed cycle index .receiveTimedOut 0).noting
        (.receiveTimedOut pipeline.name cycle index timeout)
  | .ok (some message) =>
      let counted := { pipeline with counters := pipeline.counters.countReceived }
      if allowed then
        fill { counted with batch := counted.batch.append message }
          policy allowed now cycle (index + 1) deadline
      else
        (drain { counted with counters := counted.counters.countDropped 1 }
          allowed cycle index .stopped 0).noting (.messageDropped pipeline.name cycle index)

def processed (pipeline : Pipeline M) (allowed : Bool) (cycle received : Nat)
    (reason : FillExit) (dispatched : Nat) (outcome : Outcome Unit) : Turn M :=
  match outcome.contain with
  | .error cause => pipeline.abandon cycle .drain cause
  | .ok () =>
      drain { pipeline with counters := pipeline.counters.countDispatched }
        allowed cycle received reason (dispatched + 1)

end Pipeline

end Batching
