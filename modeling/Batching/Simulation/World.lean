import Batching.Channel
import Batching.Outlet
import Batching.Simulation.Agenda
import Batching.Simulation.Script

namespace Batching.Simulation

/-! An accumulator among scripted collaborators, on a clock that jumps.

The world adds no behaviour to the accumulator and the layers of its sink: each task
that it performs is one move of `Outlet.step` or one step of the channel, and it decides
only which of the possible moves comes next.
-/

inductive Supply (M : Type) where
  | scripted (source : ScriptedSource M)
  | channel (source : ChannelSource M)

/-- A task that sends numbered messages into the channel, with a pause after each. -/
structure Producer (M : Type) where
  message : Nat → M
  next : Nat := 1
  total : Nat
  interval : Nat

inductive Task (M : Type) where
  | begin (call : Call) (tag : Nat)
  | answer (caller : Nat) (result : Except Failure Unit)
  | joined (caller : Nat)
  | resume (runner : Nat)
  | received (runner : Nat) (outcome : Outcome (Option M))
  | delivered (runner : Nat) (outcome : Outcome Unit)
  | redeliver (runner : Nat)
  | poll (runner : Nat)
  | produce
  | produceGranted

def Task.isPollOf {M : Type} (runner : Nat) : Task M → Bool
  | .poll other => other == runner
  | _ => false

def Task.isProducer {M : Type} : Task M → Bool
  | .produce | .produceGranted => true
  | _ => false

/-- A call of the base sink: when it began, of what, and how it was to end. -/
structure DeliveryRecord (M : Type) where
  time : Nat
  message : M
  kind : ReplyKind

/-- What has been seen, newest first. -/
structure Journal (M : Type) where
  receives : List (Nat × Nat) := []
  deliveries : List (DeliveryRecord M) := []
  reports : List (Nat × CycleFailure) := []
  /-- Spawned calls that returned: their tag, the time and the result. -/
  returns : List (Nat × Nat × Except Failure Unit) := []
  /-- Single cycles that ended: their runner, the time and the result. -/
  runs : List (Nat × Nat × Except CycleFailure CycleReport) := []
  notices : List Notice := []

structure World (M : Type) where
  agenda : Agenda (Task M) := {}
  outlet : Outlet M
  acquisitions : Lives := {}
  supply : Supply M
  base : ScriptedBase M
  producer : Option (Producer M) := none
  /-- The tags of the callers that were spawned. -/
  tags : List (Nat × Nat) := []
  /-- The owner has let the accumulator go. -/
  released : Bool := false
  journal : Journal M := {}

namespace World

variable {M : Type}

def now (world : World M) : Nat :=
  world.agenda.now

def accumulator (world : World M) : Accumulator M :=
  world.outlet.accumulator

def sink (world : World M) : ScriptedSink M :=
  { toScriptedBase := world.base, layers := world.outlet.layers }

def note (world : World M) (notice : Notice) : World M :=
  { world with journal := { world.journal with notices := notice :: world.journal.notices } }

def goFirst (world : World M) (task : Task M) : World M :=
  { world with agenda := world.agenda.goFirst [task] }

def enqueue (world : World M) (task : Task M) : World M :=
  { world with agenda := world.agenda.enqueue task }

def after (world : World M) (delay : Nat) (task : Task M) : World M :=
  { world with agenda := world.agenda.after delay task }

/-- The owner waits for the calls that it has not spawned. -/
def isOwned (world : World M) : Task M → Bool
  | .answer caller _ => (world.tags.lookup caller).isNone
  | .joined caller => (world.tags.lookup caller).isNone
  | _ => false

def wakeCaller (world : World M) (task : Task M) : World M :=
  if world.isOwned task then { world with agenda := world.agenda.enqueueOwned task }
  else world.enqueue task

/-- Makes a listening receive look at the channel again, once. -/
def wakeListener (world : World M) (source : ChannelSource M) : World M :=
  match source.listener? with
  | none => world
  | some call =>
      if world.agenda.isReady (Task.isPollOf call) then world else world.enqueue (.poll call)

def applyEffect (world : World M) : ChannelEffect M → World M
  | .answered call message => world.goFirst (.received call (.returned message))
  | .wakeAt due call =>
      { world with agenda := world.agenda.setTimer due (.poll call) }
  | .calmed call => { world with agenda := world.agenda.cancel (Task.isPollOf call) }
  | .granted call => world.enqueue (.poll call)
  | .freed _ => world.enqueue .produceGranted
  | .logged notice => world.note notice

def applyEffects (world : World M) (effects : List (ChannelEffect M)) : World M :=
  effects.foldl applyEffect world

def beginReceive (world : World M) (runner timeout : Nat) : World M :=
  match world.supply with
  | .scripted source =>
      let (entry, source) := source.receive timeout
      let journal := { world.journal with
        receives := (world.now, timeout) :: world.journal.receives }
      after { world with supply := .scripted source, journal } entry.delay
        (.received runner entry.outcome)
  | .channel source =>
      let (source, effects) := source.receive world.now runner timeout
      applyEffects { world with supply := .channel source } effects

def beginDelivery [BEq M] (world : World M) (runner : Nat) (message : M) : World M :=
  let (reply, base) := world.base.deliver message
  let journal := { world.journal with
    deliveries := ⟨world.now, message, reply.kind⟩ :: world.journal.deliveries }
  after { world with base, journal } (base.delayOf reply) (.delivered runner reply.outcome)

def beginRequest (world : World M) : Request → Life × World M
  | .acquireSource =>
      match world.supply with
      | .scripted _ =>
          let (life, acquisitions) := world.acquisitions.call
          (life, { world with acquisitions })
      | .channel _ => ({}, world)
  | .startSink =>
      let (life, base) := world.base.start
      (life, { world with base })
  | .stopSink =>
      let (life, base) := world.base.stop
      (life, { world with base })
  | .startSource =>
      match world.supply with
      | .scripted source =>
          let (life, source) := source.start
          (life, { world with supply := .scripted source })
      | .channel _ => ({}, world)
  | .stopSource =>
      match world.supply with
      | .scripted source =>
          let (life, source) := source.stop
          (life, { world with supply := .scripted source })
      | .channel _ => ({}, world)

def joiners (world : World M) (worker : Nat) : List Nat :=
  (world.accumulator.callers.zipIdx.filter fun (caller, _) =>
    match caller.point with
    | .joining awaited _ => awaited == worker
    | _ => false).map Prod.snd

def isObserved (world : World M) : Bool :=
  match world.accumulator.crew.reporter with
  | .observer _ => true
  | .logging _ => false

/-- What an event of the accumulator makes happen in the world around it. -/
def reactSeen (world : World M) : Event M → World M
  | .logged notice => world.note notice
  | .spawned runner => world.enqueue (.resume runner)
  | .granted runner => world.enqueue (.resume runner)
  | .receiveBegan runner _ timeout => world.beginReceive runner timeout
  | .cycleEnded runner result =>
      match world.accumulator.crew.runner? runner with
      | some { repeats := false, .. } =>
          { world with journal := { world.journal with
              runs := (runner, world.now, result) :: world.journal.runs } }
      | _ => world
  | .reported failure =>
      if world.isObserved then
        { world with journal := { world.journal with
            reports := (world.now, failure) :: world.journal.reports } }
      else world
  | .finished worker =>
      (world.joiners worker).foldl (fun world id => world.wakeCaller (.joined id)) world
  | .requested caller request =>
      let (life, world) := world.beginRequest request
      world.after life.delay (.answer caller life.result)
  | .returned caller result =>
      match world.tags.lookup caller with
      | some tag =>
          { world with journal := { world.journal with
              returns := (tag, world.now, result) :: world.journal.returns } }
      | none => world
  | .receiveEnded _ _ _ | .processBegan _ _ _ | .processEnded _ _ _ _ => world
  | .answered _ _ _ => world

def react [BEq M] (world : World M) : OutletEvent M → World M
  | .seen event => world.reactSeen event
  | .noted notice => world.note notice
  | .deliveryBegan runner message => world.beginDelivery runner message
  | .paused runner backoff => world.after backoff (.redeliver runner)

/-- Performs a move of the accumulator or of its sink and what follows from it. -/
def move [BEq M] (world : World M) (move : OutletMove M) : World M :=
  match world.outlet.step world.now move with
  | none => world
  | some (outlet, events) => events.foldl react { world with outlet }

/-- A runner that waits for nothing but its turn has it: at once when it holds the
lock, and when it pauses as soon as all others wait. -/
def carryOn (world : World M) (runner : Nat) : World M :=
  match world.accumulator.crew.runner? runner with
  | none => world
  | some { standing := .pausing, .. } =>
      { world with agenda := world.agenda.rest (.resume runner) }
  | some _ =>
      if world.accumulator.crew.canResume runner then world.goFirst (.resume runner) else world

/-- An accumulator that its owner let go is dropped when no call holds it any more. -/
def dropIfReleased [BEq M] (world : World M) : World M :=
  if world.released && !world.accumulator.dropped then world.move (.life .drop) else world

def moveRunner [BEq M] (world : World M) (runner : Nat) (cue : Cue M) : World M :=
  (world.move (.life (.worker runner cue))).carryOn runner

def produced (world : World M) (producer : Producer M) (source : ChannelSource M) : World M :=
  let sent := { world with
    supply := .channel source
    producer := some { producer with next := producer.next + 1 } }
  (sent.wakeListener source).after producer.interval .produce

def produce (world : World M) : World M :=
  match world.producer, world.supply with
  | some producer, .channel source =>
      if producer.next ≤ producer.total then
        let (channel, sent) := source.channel.send 0 (producer.message producer.next)
        if sent then world.produced producer { source with channel }
        else { world with supply := .channel { source with channel } }
      else world
  | _, _ => world

def produceGranted (world : World M) : World M :=
  match world.producer, world.supply with
  | some producer, .channel source =>
      let channel := source.channel.sendGranted 0 (producer.message producer.next)
      world.produced producer { source with channel }
  | _, _ => world

def perform [BEq M] (world : World M) : Task M → World M
  | .begin call tag =>
      let caller := world.accumulator.callers.length
      (move { world with tags := (caller, tag) :: world.tags } (.life (.begin call))).dropIfReleased
  | .answer caller result => (world.move (.life (.answer caller result))).dropIfReleased
  | .joined caller => (world.move (.life (.joined caller))).dropIfReleased
  | .resume runner => world.moveRunner runner .resume
  | .received runner outcome => world.moveRunner runner (.received outcome)
  | .delivered runner outcome => (world.move (.delivered runner outcome)).carryOn runner
  | .redeliver runner => world.move (.redeliver runner)
  | .poll runner =>
      match world.supply with
      | .channel source =>
          let (source, effects) := source.poll world.now runner
          applyEffects { world with supply := .channel source } effects
      | .scripted _ => world
  | .produce => world.produce
  | .produceGranted => world.produceGranted

/-- The steps that a run may take.  A run that comes to its end takes far fewer.  One with a
worker of batch size 0 need not end, because that worker repeats its cycles without letting time
pass, and it is cut off here. -/
def fuel : Nat := 0x1000000000000000

def machine [BEq M] : Machine (World M) (Task M) where
  agenda := World.agenda
  setAgenda := fun world agenda => { world with agenda }
  isOwned := isOwned
  perform := perform

def run [BEq M] (world : World M) (done : World M → Bool) (limit : Option Nat) : World M :=
  machine.run done limit fuel world

/-- Time passes, and then everything that can still run at that instant runs. -/
def advance [BEq M] (world : World M) (ms : Nat) : World M :=
  world.run (fun _ => false) (some (world.now + ms))

/-- Makes a call and runs the world until it has returned. -/
def call [BEq M] (world : World M) (call : Call) : World M × Option (Except Failure Unit) :=
  let caller := world.accumulator.callers.length
  let returned (world : World M) : Bool := (world.accumulator.result? caller).isSome
  let after := (world.move (.life (.begin call))).run returned none
  (after, after.accumulator.result? caller)

/-- Makes a call as a task of its own and lets everything ready run. -/
def spawn [BEq M] (world : World M) (call : Call) (tag : Nat) : World M :=
  (world.enqueue (.begin call tag)).advance 0

def release [BEq M] (world : World M) : World M :=
  dropIfReleased { world with released := true }

def push (world : World M) (entries : List (Entry M)) : World M :=
  match world.supply with
  | .scripted source => { world with supply := .scripted (source.push entries) }
  | .channel _ => world

def send (world : World M) (message : M) : World M × Bool :=
  match world.supply with
  | .scripted _ => (world, false)
  | .channel source =>
      match source.channel.trySend? message with
      | none => (world, false)
      | some channel =>
          let source := { source with channel }
          (wakeListener { world with supply := .channel source } source, true)

def sendAll (world : World M) : List M → World M × List Bool
  | [] => (world, [])
  | message :: rest =>
      let (next, sent) := world.send message
      let (after, others) := next.sendAll rest
      (after, sent :: others)

/-- Hires a runner for one cycle; its number is the count of the runners before it. -/
def hireRun (world : World M) : World M :=
  { world with outlet := { world.outlet with accumulator := { world.accumulator with
      crew := world.accumulator.crew.hire world.accumulator.policy false } } }

/-- The numbers of the runners that are hired next. -/
def nextRuns (world : World M) (count : Nat) : List Nat :=
  (List.range count).map (world.accumulator.crew.runners.length + ·)

/-- Issues single cycles together: each goes on until it waits before the next one runs. -/
def issueCycles (world : World M) (count : Nat) : World M :=
  let hired := (world.nextRuns count).foldl (fun world _ => world.hireRun) world
  { hired with agenda := hired.agenda.goFirst ((world.nextRuns count).map Task.resume) }

/-- Runs of these numbers have all ended. -/
def cyclesOver (world : World M) (runs : List Nat) : Bool :=
  runs.all fun id => world.accumulator.isGone id

/-- Issues single cycles together and runs the world until all of them have ended. -/
def runCycles [BEq M] (world : World M) (count : Nat) : World M :=
  (world.issueCycles count).run (fun later => later.cyclesOver (world.nextRuns count)) none

def spawnCycle [BEq M] (world : World M) : World M :=
  let id := world.accumulator.crew.runners.length
  (world.hireRun.enqueue (.resume id)).advance 0

def left (world : World M) : Nat :=
  match world.supply with
  | .scripted source => source.script.length
  | .channel _ => 0

def sourceStarts (world : World M) : Nat :=
  match world.supply with
  | .scripted source => source.starts.calls
  | .channel _ => 0

def sourceStops (world : World M) : Nat :=
  match world.supply with
  | .scripted source => source.stops.calls
  | .channel _ => 0

def takeJournal (world : World M) : Journal M × World M :=
  (world.journal, { world with journal := {} })

end World

/-- A world with nothing on its agenda. -/
def World.ofSupply {M : Type} (accumulator : Accumulator M) (supply : Supply M)
    (sink : ScriptedSink M) : World M where
  outlet := { accumulator, sink := sink.name, layers := sink.layers }
  supply := supply
  base := sink.toScriptedBase

/-- A world whose source follows a script, once it is acquired. -/
def World.ofSource {M : Type} (accumulator : Accumulator M) (acquisitions : Lives)
    (source : ScriptedSource M) (sink : ScriptedSink M) : World M :=
  { World.ofSupply accumulator (.scripted source) sink with acquisitions }

/-- A world whose source is a channel; both its endpoint and somebody else can send. -/
def World.ofChannel {M : Type} (accumulator : Accumulator M) (capacity : Nat)
    (sink : ScriptedSink M) : Except PanicPayload (World M) := do
  let channel ← Channel.make capacity 2
  return World.ofSupply accumulator (.channel { channel }) sink

/-- A world for single cycles, with a pipeline of its own and no life cycle around it. -/
def World.ofCycles {M : Type} (policy : Policy) (source : ScriptedSource M)
    (sink : ScriptedSink M) : World M :=
  World.ofSupply (Accumulator.make "batch-cycle" policy (.observer fun _ => false))
    (.scripted source) sink

end Batching.Simulation
