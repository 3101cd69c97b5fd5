import Batching.Cycle
import Batching.Lock

namespace Batching

/-! Runners that perform batch cycles over one pipeline, one cycle at a time.

A runner either performs a single cycle or repeats cycles for as long as it is
allowed to.  Runners share the pipeline, so a lock that is first come, first served
lets one of them at a time into a cycle.  `Crew.step` resumes a runner at the place
where it waits and carries it to the next; everything it does in between is one
step, and any runner that can be resumed may be the next.
-/

/-- The calls that an accumulator makes of its collaborators outside of cycles. -/
inductive Request where
  | acquireSource
  | startSink
  | startSource
  | stopSink
  | stopSource
deriving DecidableEq, Repr

/-- What a step does that can be seen from outside, in order. -/
inductive Event (M : Type) where
  | logged (notice : Notice)
  | spawned (runner : Nat)
  | receiveBegan (runner cycle timeout : Nat)
  | receiveEnded (runner cycle : Nat) (outcome : Outcome (Option M))
  | processBegan (runner cycle : Nat) (message : M)
  | processEnded (runner cycle : Nat) (message : M) (outcome : Outcome Unit)
  | cycleEnded (runner : Nat) (result : Except CycleFailure CycleReport)
  | reported (failure : CycleFailure)
  | granted (runner : Nat)
  | finished (runner : Nat)
  | requested (caller : Nat) (request : Request)
  | answered (caller : Nat) (request : Request) (result : Except Failure Unit)
  | returned (caller : Nat) (result : Except Failure Unit)

/-- Who is told of an abandoned cycle: the log, or an observer that may panic. -/
inductive Reporter where
  | logging (accumulator : String)
  | observer (panics : CycleFailure → Bool)

def Reporter.panics : Reporter → CycleFailure → Bool
  | .logging _, _ => false
  | .observer panics, failure => panics failure

def Reporter.notices : Reporter → CycleFailure → List Notice
  | .logging accumulator, failure => [.cycleFailed accumulator failure]
  | .observer _, _ => []

/-- Where a runner waits. -/
inductive Standing (M : Type) where
  | fresh
  | queued
  | awaiting (await : Await M)
  | pausing
  | leaving
  | exited
  | crashed
deriving Repr

structure Runner (M : Type) where
  policy : Policy
  repeats : Bool
  allowed : Bool := true
  standing : Standing M := .fresh
deriving Repr

def Runner.gone {M : Type} (runner : Runner M) : Bool :=
  match runner.standing with
  | .exited | .crashed => true
  | _ => false

def Runner.hasCrashed {M : Type} (runner : Runner M) : Bool :=
  match runner.standing with
  | .crashed => true
  | _ => false

structure Crew (M : Type) where
  pipeline : Pipeline M
  reporter : Reporter
  lock : FairLock := {}
  runners : List (Runner M) := []

/-- What makes a waiting runner go on. -/
inductive Cue (M : Type) where
  | resume
  | received (outcome : Outcome (Option M))
  | processed (outcome : Outcome Unit)
deriving Repr

/-- The call of a collaborator that runner `id` begins to wait for. -/
def Await.event {M : Type} (id : Nat) : Await M → Event M
  | .receive cycle _ _ timeout => .receiveBegan id cycle timeout
  | .process cycle _ _ _ message => .processBegan id cycle message

namespace Crew

variable {M : Type}

def make (name : String) (reporter : Reporter) : Crew M :=
  { pipeline := { name }, reporter }

def runner? (crew : Crew M) (id : Nat) : Option (Runner M) :=
  crew.runners[id]?

def pending (crew : Crew M) : Nat :=
  crew.pipeline.batch.size

/-- Adds a runner, whose number is the count of those before it. -/
def hire (crew : Crew M) (policy : Policy) (repeats : Bool) : Crew M :=
  { crew with runners := crew.runners ++ [{ policy, repeats }] }

/-- Takes a runner's permission away, for good. -/
def withdraw (crew : Crew M) (id : Nat) : Crew M :=
  { crew with runners := crew.runners.modify id fun runner => { runner with allowed := false } }

def stand (crew : Crew M) (id : Nat) (standing : Standing M) : Crew M :=
  { crew with runners := crew.runners.modify id fun runner => { runner with standing } }

def request (crew : Crew M) (id : Nat) : Crew M :=
  { crew with lock := crew.lock.request id }

/-- Gives the lock up, to the longest waiting runner if there is one. -/
def release (crew : Crew M) : Crew M × List (Event M) :=
  ({ crew with lock := crew.lock.release },
    crew.lock.release.holder.toList.map Event.granted)

/-- A runner that repeats cycles asks for the lock: to run a cycle while it is
allowed to, and otherwise to leave. -/
def goOn (crew : Crew M) (id : Nat) (runner : Runner M) : Crew M :=
  (crew.request id).stand id (if runner.allowed then .queued else .leaving)

def report (crew : Crew M) (id : Nat) (failure : CycleFailure) : Crew M × List (Event M) :=
  let told := Event.reported failure :: (crew.reporter.notices failure).map Event.logged
  if crew.reporter.panics failure then (crew.stand id .crashed, told ++ [.finished id])
  else (crew.stand id .pausing, told)

def conclude (crew : Crew M) (id : Nat) (runner : Runner M)
    (result : Except CycleFailure CycleReport) : Crew M × List (Event M) :=
  let (unlocked, granted) := crew.release
  let (after, told) :=
    if runner.repeats then
      match result with
      | .ok _ => (unlocked.stand id .pausing, [])
      | .error failure => unlocked.report id failure
    else (unlocked.stand id .exited, [.finished id])
  (after, .cycleEnded id result :: granted ++ told)

/-- Carries the effect of one stretch of a cycle over to the crew. -/
def settle (crew : Crew M) (id : Nat) (runner : Runner M) (turn : Turn M) :
    Crew M × List (Event M) :=
  let moved := { crew with pipeline := turn.pipeline }
  let (after, events) := match turn.progress with
    | .awaits await => (moved.stand id (.awaiting await), [await.event id])
    | .ended result => moved.conclude id runner result
  (after, turn.notices.map Event.logged ++ events)

/-- A runner that leaves empties the batch once no cycle runs. -/
def leave (crew : Crew M) (id : Nat) : Crew M × List (Event M) :=
  let dropped := crew.pending
  let cleared := { crew with pipeline := { crew.pipeline with batch := Batch.empty } }
  let (unlocked, granted) := cleared.release
  (unlocked.stand id .exited,
    granted ++ [.logged (.workerExited crew.pipeline.name dropped), .finished id])

/-- Resumes runner `id` at time `now`; nothing if the cue is not what it waits for. -/
def step (now : Nat) (crew : Crew M) (id : Nat) (cue : Cue M) :
    Option (Crew M × List (Event M)) :=
  match crew.runner? id with
  | none => none
  | some runner =>
      match runner.standing, cue with
      | .fresh, .resume =>
          if runner.repeats then
            some (crew.goOn id runner, [.logged (.workerStarted crew.pipeline.name)])
          else some ((crew.request id).stand id .queued, [])
      | .queued, .resume =>
          if crew.lock.holder = some id then
            some (crew.settle id runner
              (crew.pipeline.beginCycle runner.policy runner.allowed now))
          else none
      | .awaiting (.receive cycle index deadline timeout), .received outcome =>
          let (after, events) := crew.settle id runner
            (crew.pipeline.received runner.policy runner.allowed now cycle index deadline
              timeout outcome)
          some (after, .receiveEnded id cycle outcome :: events)
      | .awaiting (.process cycle received reason dispatched message), .processed outcome =>
          let (after, events) := crew.settle id runner
            (crew.pipeline.processed runner.allowed cycle received reason dispatched outcome)
          some (after, .processEnded id cycle message outcome :: events)
      | .pausing, .resume => some (crew.goOn id runner, [])
      | .leaving, .resume =>
          if crew.lock.holder = some id then some (crew.leave id) else none
      | _, _ => none

def canResume (crew : Crew M) (id : Nat) : Bool :=
  match crew.runner? id with
  | none => false
  | some runner =>
      match runner.standing with
      | .fresh | .pausing => true
      | .queued | .leaving => crew.lock.holder == some id
      | _ => false

end Crew

end Batching
