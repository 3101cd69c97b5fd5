import Batching.Crew

namespace Batching

/-! The accumulator: its life cycle around a crew of workers.

Calls of the life cycle and workers wait at the same kind of places and are resumed
one at a time, in any order.  `Accumulator.step` performs one `Move`; a history of an
accumulator is a sequence of moves.  Each successful start hires one worker, which
keeps its permission until the stop that follows; workers of earlier spans may
still be inside a call long after that, without permission.
-/

/-- The calls that the owner of an accumulator makes. -/
inductive Call where
  | start
  | stop
  | join
  | shutdown
  | setPolicy (policy : Policy)
deriving DecidableEq, Repr

/-- Where a call waits, or the result it returned. -/
inductive CallPoint where
  | acquiring
  | startingSink
  | startingSource
  | rollingBack (cause : Failure)
  | stoppingSink
  | stoppingSource (failures : List String)
  | joining (worker : Nat) (result : Except Failure Unit)
  | returned (result : Except Failure Unit)

structure Caller where
  call : Call
  point : CallPoint

def Caller.result? (caller : Caller) : Option (Except Failure Unit) :=
  match caller.point with
  | .returned result => some result
  | _ => none

/-- The collaborator call that a caller waits for. -/
def Caller.request? (caller : Caller) : Option Request :=
  match caller.point with
  | .acquiring => some .acquireSource
  | .startingSink => some .startSink
  | .startingSource => some .startSource
  | .rollingBack _ => some .stopSink
  | .stoppingSink => some .stopSink
  | .stoppingSource _ => some .stopSource
  | .joining _ _ => none
  | .returned _ => none

/-- A failure to start names the step it happened in. -/
def Failure.atStartup (step : String) : Failure → Failure
  | .startup text => .startup (step ++ ": " ++ text)
  | other => .startup (step ++ ": " ++ other.message)

structure Accumulator (M : Type) where
  crew : Crew M
  policy : Policy
  state : RunState := .stopped
  /-- The worker of the present span, from its start to its stop. -/
  active : Option Nat := none
  /-- The latest worker, until somebody joins it. -/
  latest : Option Nat := none
  callers : List Caller := []
  dropped : Bool := false

/-- One thing that may happen next. -/
inductive Move (M : Type) where
  | begin (call : Call)
  /-- The collaborator that a caller waits for has returned.  A collaborator that panics instead
  takes the call down with it and changes nothing else, so it has no move of its own: it is one
  that never answers. -/
  | answer (caller : Nat) (result : Except Failure Unit)
  | joined (caller : Nat)
  | worker (id : Nat) (cue : Cue M)
  | drop

namespace Accumulator

variable {M : Type}

def make (name : String) (policy : Policy) (reporter : Reporter) : Accumulator M :=
  { crew := Crew.make name reporter, policy }

def name (accumulator : Accumulator M) : String :=
  accumulator.crew.pipeline.name

def pending (accumulator : Accumulator M) : Nat :=
  accumulator.crew.pending

def stats (accumulator : Accumulator M) : Stats where
  state := accumulator.state
  pending := accumulator.pending
  counters := accumulator.crew.pipeline.counters

def result? (accumulator : Accumulator M) (caller : Nat) : Option (Except Failure Unit) :=
  accumulator.callers[caller]?.bind Caller.result?

def idle (accumulator : Accumulator M) : Bool :=
  accumulator.callers.all fun caller => caller.result?.isSome

/-- A worker that is over, or a number that no worker has. -/
def isGone (accumulator : Accumulator M) (worker : Nat) : Bool :=
  match accumulator.crew.runner? worker with
  | some runner => runner.gone
  | none => true

/-- Joining a worker that a panic ended is worth a warning. -/
def joinNotices (accumulator : Accumulator M) (worker : Nat) : List (Event M) :=
  match accumulator.crew.runner? worker with
  | some runner =>
      if runner.hasCrashed then [.logged (.workerCrashed accumulator.name)] else []
  | none => []

def moveTo (accumulator : Accumulator M) (caller : Nat) (point : CallPoint) : Accumulator M :=
  { accumulator with
    callers := accumulator.callers.modify caller fun held => { held with point } }

def ask (accumulator : Accumulator M) (caller : Nat) (point : CallPoint) (request : Request) :
    Accumulator M × List (Event M) :=
  (accumulator.moveTo caller point, [.requested caller request])

def giveBack (accumulator : Accumulator M) (caller : Nat) (result : Except Failure Unit) :
    Accumulator M × List (Event M) :=
  (accumulator.moveTo caller (.returned result), [.returned caller result])

def join (accumulator : Accumulator M) (caller : Nat) (result : Except Failure Unit) :
    Accumulator M × List (Event M) :=
  match accumulator.latest with
  | none => accumulator.giveBack caller result
  | some worker =>
      let taken := { accumulator with latest := none }
      if taken.isGone worker then
        let (after, events) := taken.giveBack caller result
        (after, taken.joinNotices worker ++ events)
      else (taken.moveTo caller (.joining worker result), [])

def afterStop (accumulator : Accumulator M) (caller : Nat) (call : Call)
    (result : Except Failure Unit) : Accumulator M × List (Event M) :=
  match call with
  | .shutdown => accumulator.join caller result
  | _ => accumulator.giveBack caller result

/-- Refuses the caller and changes nothing else. -/
def refuse (accumulator : Accumulator M) (caller : Nat) (action : String) :
    Accumulator M × List (Event M) :=
  accumulator.giveBack caller (.error (.invalidState action accumulator.state))

def beginStart (accumulator : Accumulator M) (caller : Nat) : Accumulator M × List (Event M) :=
  if accumulator.state = .stopped then
    let (after, events) :=
      ask { accumulator with state := .starting } caller .acquiring .acquireSource
    (after, .logged (.starting accumulator.name) :: events)
  else accumulator.refuse caller "start"

def failStart (accumulator : Accumulator M) (caller : Nat) (failure : Failure) :
    Accumulator M × List (Event M) :=
  let (after, events) := giveBack { accumulator with state := .stopped } caller (.error failure)
  (after, .logged (.startFailed accumulator.name failure) :: events)

def launch (accumulator : Accumulator M) (now caller : Nat) :
    Accumulator M × List (Event M) :=
  let worker := accumulator.crew.runners.length
  let pipeline := accumulator.crew.pipeline
  let marked := { pipeline with counters := pipeline.counters.markStarted now }
  let running : Accumulator M :=
    { accumulator with
      crew := { accumulator.crew with pipeline := marked }.hire accumulator.policy true
      state := .running
      active := some worker
      latest := some worker }
  let (after, events) := running.giveBack caller (.ok ())
  (after,
    .spawned worker :: .logged (.started accumulator.name accumulator.policy) :: events)

/-- The collaborators are stopped: empties the batch. -/
def finishStop (accumulator : Accumulator M) (caller : Nat) (call : Call)
    (failures : List String) : Accumulator M × List (Event M) :=
  let dropped := accumulator.pending
  let pipeline := accumulator.crew.pipeline
  let cleared : Accumulator M :=
    { accumulator with
      crew := { accumulator.crew with pipeline := { pipeline with batch := Batch.empty } }
      state := .stopped }
  let clearing : List (Event M) :=
    if 0 < dropped then [.logged (.clearedOnStop accumulator.name dropped)] else []
  match failures with
  | [] =>
      let (after, events) := cleared.afterStop caller call (.ok ())
      (after, clearing ++ .logged (.stopped accumulator.name) :: events)
  | _ =>
      let (after, events) :=
        cleared.afterStop caller call (.error (.shutdown ("; ".intercalate failures)))
      (after, clearing ++ events)

/-- The first stop of a running span withdraws the worker's permission. -/
def beginStop (accumulator : Accumulator M) (caller : Nat) (call : Call) :
    Accumulator M × List (Event M) :=
  match accumulator.state with
  | .stopped => accumulator.afterStop caller call (.ok ())
  | .stopping => accumulator.afterStop caller call (.ok ())
  | .starting =>
      accumulator.afterStop caller call (.error (.invalidState "stop" accumulator.state))
  | .running =>
      let stopping := { accumulator with state := .stopping }
      let (after, events) := match accumulator.active with
        | some worker =>
            ask { stopping with
                crew := stopping.crew.withdraw worker
                active := none }
              caller .stoppingSink .stopSink
        | none => stopping.finishStop caller call []
      (after, .logged (.stopping accumulator.name) :: events)

def changePolicy (accumulator : Accumulator M) (caller : Nat) (policy : Policy) :
    Accumulator M × List (Event M) :=
  if accumulator.state = .stopped then
    giveBack { accumulator with policy } caller (.ok ())
  else accumulator.refuse caller "change policy"

/-- A new call runs up to the first place where it waits. -/
def beginCall (accumulator : Accumulator M) (call : Call) : Accumulator M × List (Event M) :=
  let caller := accumulator.callers.length
  let entered : Accumulator M :=
    { accumulator with callers := accumulator.callers ++ [⟨call, .acquiring⟩] }
  match call with
  | .start => entered.beginStart caller
  | .stop => entered.beginStop caller call
  | .shutdown => entered.beginStop caller call
  | .join => entered.join caller (.ok ())
  | .setPolicy policy => entered.changePolicy caller policy

/-- The failures of a stop so far, and one more if this step failed. -/
def noteFailure (failures : List String) (step : String) : Except Failure Unit → List String
  | .ok () => failures
  | .error failure => failures ++ [step ++ ": " ++ failure.message]

def answerCall (accumulator : Accumulator M) (now id : Nat) (caller : Caller)
    (result : Except Failure Unit) : Option (Accumulator M × List (Event M)) :=
  match caller.point, result with
  | .acquiring, .ok () => some (accumulator.ask id .startingSink .startSink)
  | .acquiring, .error failure =>
      some (accumulator.failStart id (failure.atStartup "acquire source"))
  | .startingSink, .ok () => some (accumulator.ask id .startingSource .startSource)
  | .startingSink, .error failure =>
      some (accumulator.failStart id (failure.atStartup "start sink"))
  | .startingSource, .ok () => some (accumulator.launch now id)
  | .startingSource, .error failure =>
      some (accumulator.ask id (.rollingBack failure) .stopSink)
  | .rollingBack cause, .ok () =>
      some (accumulator.failStart id (cause.atStartup "start source"))
  | .rollingBack cause, .error failure =>
      let (after, events) := accumulator.failStart id (cause.atStartup "start source")
      some (after, .logged (.sinkRollbackFailed accumulator.name failure) :: events)
  | .stoppingSink, result =>
      some (accumulator.ask id (.stoppingSource (noteFailure [] "sink" result)) .stopSource)
  | .stoppingSource failures, result =>
      some (accumulator.finishStop id caller.call (noteFailure failures "source" result))
  | .joining _ _, _ => none
  | .returned _, _ => none

def joinedCall (accumulator : Accumulator M) (id : Nat) (caller : Caller) :
    Option (Accumulator M × List (Event M)) :=
  match caller.point with
  | .joining worker result =>
      if accumulator.isGone worker then
        let (after, events) := accumulator.giveBack id result
        some (after, accumulator.joinNotices worker ++ events)
      else none
  | _ => none

/-- Withdraws the permission of the active worker and forgets it. -/
def release (accumulator : Accumulator M) : Accumulator M :=
  match accumulator.active with
  | some worker =>
      { accumulator with
        crew := accumulator.crew.withdraw worker
        active := none
        dropped := true }
  | none => { accumulator with dropped := true }

/-- Performs one move at time `now`; nothing if it is not possible here.  An accumulator
can be dropped once every call has returned, and takes no further call afterwards. -/
def step (now : Nat) (accumulator : Accumulator M) :
    Move M → Option (Accumulator M × List (Event M))
  | .begin call =>
      if accumulator.dropped then none else some (accumulator.beginCall call)
  | .answer id result =>
      match accumulator.callers[id]? with
      | none => none
      | some caller =>
          match caller.request?, accumulator.answerCall now id caller result with
          | some request, some (after, events) =>
              some (after, .answered id request result :: events)
          | _, _ => none
  | .joined id =>
      match accumulator.callers[id]? with
      | none => none
      | some caller => accumulator.joinedCall id caller
  | .worker id cue =>
      match accumulator.crew.step now id cue with
      | none => none
      | some (crew, events) => some ({ accumulator with crew }, events)
  | .drop =>
      if accumulator.dropped || !accumulator.idle then none else some (accumulator.release, [])

end Accumulator

end Batching
